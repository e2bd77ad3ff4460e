import VirtualShell.Proofs.Shell.Line

/-!
# Sessions that do not see each other

In a shell that gives each session a namespace of its own, a session cannot tell what the others
do, nor that there are others.  This is a statement about two histories: where a session undergoes
the same in both, it gets the same answers and ends in the same state, whatever stands between its
steps and whatever number it has.

* `Move` and `moves` — what one session undergoes in a history, told without its number.
* `Shell.view?` — what there is of a session: where it stands and the namespace that it acts on.
* `proceed` and `replies` — the session by itself: what becomes of its view, and what it is told.
* `Secluded` — what every history keeps and what keeps sessions apart: each has its own namespace,
  and no number is given twice.

A step of a secluded shell does to a view what its move does, and nothing if it is a step of another
session (`Secluded.view?_after`).  So a history does to it what its moves do (`Secluded.view?_run`),
and the answers are those to the moves (`Secluded.reports_eq`): both sides of the comparison are
functions of the moves alone.
-/

namespace VirtualShell

open Time (Instant)

namespace Shell

/-! ## One session in a history -/

/-- What can happen to one session. -/
inductive Move where
  | begin
  | enter (line : String) (draws : Draws)
  | finish

/-- What a step is for session `id`, where `next` is the number of the next session. -/
def Step.move? (id next : Nat) : Step → Option Move
  | .create => if next = id then some .begin else none
  | .execute other line draws => if other = id then some (.enter line draws) else none
  | .close other => if other = id then some .finish else none

/-- The number of the next session behind a step. -/
def Step.next (next : Nat) : Step → Nat
  | .create => next + 1
  | _ => next

/-- What session `id` undergoes in a history that begins at `next`, in order and with the clock. -/
def moves (id : Nat) : Nat → List (Instant × Step) → List (Instant × Move)
  | _, [] => []
  | next, (now, step) :: rest =>
    match step.move? id next with
    | some move => (now, move) :: moves id (step.next next) rest
    | none => moves id (step.next next) rest

/-- What the lines of session `id` are answered in a history; nothing where it is not live. -/
def reports (id : Nat) (shell : Shell) : List (Instant × Step) → List (Option Report)
  | [] => []
  | (now, step) :: rest =>
    match step.move? id shell.nextId with
    | some (.enter line draws) =>
      (shell.execute id line now draws).toOption.map Executed.report
        :: (shell.after now step).reports id rest
    | _ => (shell.after now step).reports id rest

/-- What there is of a live session: where it stands, and the namespace that it acts on. -/
def view? (shell : Shell) (id : Nat) : Option (Session × Store) :=
  (shell.seat? id).map fun seat => (seat.session, shell.storeOf seat)

/-! ## One session by itself -/

/-- What becomes of a session that has the shell to itself. -/
def proceed (interpreter : Interpreter) (limits : Limits) (now : Instant) :
    Option (Session × Store) → Move → Option (Session × Store)
  | _, .begin => some ({}, .new limits now)
  | some (session, store), .enter line draws =>
    let outcome := interpreter.execute session store line now draws
    some (outcome.session, outcome.store)
  | none, .enter .. => none
  | _, .finish => none

/-- What a session that has the shell to itself is answered. -/
def replies (interpreter : Interpreter) (limits : Limits) :
    Option (Session × Store) → List (Instant × Move) → List (Option Report)
  | _, [] => []
  | view, (now, .enter line draws) :: rest =>
    view.map (fun view => (interpreter.execute view.1 view.2 line now draws).report)
      :: replies interpreter limits (proceed interpreter limits now view (.enter line draws)) rest
  | view, (now, move) :: rest =>
    replies interpreter limits (proceed interpreter limits now view move) rest

/-! ## What keeps sessions apart -/

/-- A shell whose sessions have a namespace and a number each to themselves. -/
structure Secluded (interpreter : Interpreter) (limits : Limits) (shell : Shell) : Prop where
  interpreter : shell.interpreter = interpreter
  isolation : shell.isolation = .perSession
  limits : shell.limits = limits
  own : ∀ entry ∈ shell.seats, entry.2.ownStore.isSome = true
  fresh : ∀ entry ∈ shell.seats, entry.1 < shell.nextId

variable {shell : Shell} {interpreter : Interpreter} {limits : Limits} {now : Instant}
  {id other : Nat} {seat : Seat}

lemma secluded_new (interpreter : Interpreter) (limits : Limits) (now : Instant) :
    Secluded interpreter limits (new interpreter .perSession limits now) :=
  ⟨rfl, rfl, rfl, by simp [new], by simp [new]⟩

/-- A session that has moved on has moved on alone. -/
lemma seat?_advance_of_ne {session : Session} {store : Store} (hne : other ≠ id) :
    (shell.advance id seat session store).seat? other = shell.seat? other := by
  have hsame : (fun entry : Nat × Seat => decide (entry.1 = other))
      ∘ (fun entry => if entry.1 = id
          then (id, ⟨session, seat.ownStore.map fun _ => store⟩) else entry)
        = fun entry => decide (entry.1 = other) := by
    funext entry
    by_cases hentry : entry.1 = id <;> simp [hentry]
  rw [seat?, seat?, seats_advance, List.find?_map, hsame]
  cases hfind : shell.seats.find? fun entry => decide (entry.1 = other) with
  | none => rfl
  | some entry =>
      have hother : entry.1 = other := by simpa using List.find?_some hfind
      simp [hother, hne]

/-- What there is of a session that has moved on. -/
lemma view?_advance {session : Session} {store : Store} (h : shell.seat? id = some seat) :
    (shell.advance id seat session store).view? id = some (session, store) := by
  have hstore : (shell.advance id seat session store).store? id = some store := store?_advance h
  rw [store?, seat?_advance h, Option.map_some, Option.some_inj] at hstore
  rw [view?, seat?_advance h, Option.map_some, hstore]

/-- Moving on changes nothing but the table and the common namespace. -/
lemma frame_advance (shell : Shell) (id : Nat) (seat : Seat) (session : Session) (store : Store) :
    ∃ seats commons, shell.advance id seat session store
      = { shell with seats := seats, commons := commons } := by
  simp only [advance]
  cases seat.ownStore with
  | none => exact ⟨_, _, rfl⟩
  | some own => exact ⟨_, _, rfl⟩

namespace Secluded

lemma isSome_ownStore (h : Secluded interpreter limits shell) (hseat : shell.seat? id = some seat) :
    seat.ownStore.isSome = true := by
  obtain ⟨entry, hentry, rfl⟩ := exists_of_seat? hseat
  exact h.own entry hentry

lemma create (h : Secluded interpreter limits shell) :
    Secluded interpreter limits (shell.create now).2.1 := by
  refine ⟨h.interpreter, h.isolation, h.limits, fun entry hentry => ?_, fun entry hentry => ?_⟩
  · rcases List.mem_append.mp hentry with hold | hnew
    · exact h.own entry hold
    · rw [List.mem_singleton.mp hnew]
      simp [h.isolation]
  · rcases List.mem_append.mp hentry with hold | hnew
    · exact Nat.lt_succ_of_lt (h.fresh entry hold)
    · rw [List.mem_singleton.mp hnew]
      exact Nat.lt_succ_self _

lemma advance (h : Secluded interpreter limits shell) (hseat : shell.seat? id = some seat)
    (session : Session) (store : Store) :
    Secluded interpreter limits (shell.advance id seat session store) := by
  obtain ⟨seats, commons, hframe⟩ := frame_advance shell id seat session store
  have hseats := seats_advance shell id seat session store
  rw [hframe] at hseats ⊢
  refine ⟨h.interpreter, h.isolation, h.limits, fun entry hentry => ?_, fun entry hentry => ?_⟩
  all_goals
    obtain ⟨before, hbefore, rfl⟩ := List.mem_map.mp (hseats ▸ hentry)
    split_ifs with hsame
  · simpa using h.isSome_ownStore hseat
  · exact h.own before hbefore
  · exact hsame ▸ h.fresh before hbefore
  · exact h.fresh before hbefore

/-- Sessions stay apart, and the numbers count up. -/
theorem after (h : Secluded interpreter limits shell) (now : Instant) (step : Step) :
    Secluded interpreter limits (shell.after now step)
      ∧ (shell.after now step).nextId = step.next shell.nextId := by
  cases step with
  | create => exact ⟨h.create, rfl⟩
  | execute id line draws =>
      simp only [Shell.after, execute]
      cases hseat : shell.seat? id with
      | none => exact ⟨h, rfl⟩
      | some seat =>
          refine ⟨h.advance hseat _ _, ?_⟩
          simp only [Shell.advance]
          cases seat.ownStore <;> rfl
  | close id =>
      simp only [Shell.after, close]
      split
      · exact ⟨⟨h.interpreter, h.isolation, h.limits,
          fun entry hentry => h.own entry (List.mem_of_mem_filter hentry),
          fun entry hentry => h.fresh entry (List.mem_of_mem_filter hentry)⟩, rfl⟩
      · exact ⟨h, rfl⟩

/-! ## What a step does to a session -/

/-- A seat with a namespace of its own acts on that, whatever the shell holds besides. -/
lemma view?_congr {changed : Shell} (h : Secluded interpreter limits shell)
    (hseat : changed.seat? id = shell.seat? id) : changed.view? id = shell.view? id := by
  simp only [view?, hseat]
  cases hown : shell.seat? id with
  | none => rfl
  | some seat =>
      obtain ⟨own, hstore⟩ := Option.isSome_iff_exists.mp (h.isSome_ownStore hown)
      simp [storeOf, hstore]

lemma seat?_nextId (h : Secluded interpreter limits shell) : shell.seat? shell.nextId = none := by
  simp only [seat?, Option.map_eq_none_iff, List.find?_eq_none, decide_eq_true_eq]
  exact fun entry hentry => Nat.ne_of_lt (h.fresh entry hentry)

lemma view?_create (h : Secluded interpreter limits shell) (id : Nat) :
    (shell.create now).2.1.view? id
      = if shell.nextId = id then some ({}, .new limits now) else shell.view? id := by
  split_ifs with hid
  · subst hid
    have hnew : shell.seats.find? (fun entry => decide (entry.1 = shell.nextId)) = none := by
      simpa [seat?] using h.seat?_nextId
    simp [view?, seat?, Shell.create, hnew, h.isolation, h.limits, storeOf]
  · refine h.view?_congr ?_
    simp [seat?, Shell.create, List.find?_append, hid]

lemma view?_execute (h : Secluded interpreter limits shell) (id other : Nat) (line : String)
    (draws : Draws) :
    (shell.after now (.execute other line draws)).view? id
      = if other = id then proceed interpreter limits now (shell.view? id) (.enter line draws)
        else shell.view? id := by
  obtain rfl := h.interpreter
  simp only [Shell.after, execute]
  cases hseat : shell.seat? other with
  | none =>
      split_ifs with hid
      · subst hid
        simp [view?, hseat, proceed]
      · rfl
  | some seat =>
      split_ifs with hid
      · subst hid
        have hview : shell.view? other = some (seat.session, shell.storeOf seat) := by
          rw [view?, hseat, Option.map_some]
        rw [hview]
        exact view?_advance hseat
      · exact h.view?_congr (seat?_advance_of_ne (Ne.symm hid))

lemma view?_close (h : Secluded interpreter limits shell) (id other : Nat) :
    (shell.close other).2.1.view? id = if other = id then none else shell.view? id := by
  simp only [close]
  split
  · split_ifs with hid
    · subst hid
      simp [view?, seat?, List.find?_filter]
    · refine h.view?_congr ?_
      simp only [seat?, List.find?_filter]
      congr 2
      funext entry
      by_cases hentry : entry.1 = id
      · simp [hentry, Ne.symm hid]
      · simp [hentry]
  · rename_i hnone
    split_ifs with hid
    · subst hid
      simpa [view?] using hnone
    · rfl

/-- **A step does to a session what its move does**, and nothing if it is the step of another. -/
theorem view?_after (h : Secluded interpreter limits shell) (step : Step) (id : Nat) :
    (shell.after now step).view? id
      = match step.move? id shell.nextId with
        | some move => proceed interpreter limits now (shell.view? id) move
        | none => shell.view? id := by
  cases step with
  | create =>
      rw [Shell.after, h.view?_create]
      simp only [Step.move?]
      split_ifs <;> simp [proceed]
  | execute other line draws =>
      rw [h.view?_execute]
      simp only [Step.move?]
      split_ifs <;> rfl
  | close other =>
      rw [Shell.after, h.view?_close]
      simp only [Step.move?]
      split_ifs <;> simp [proceed]

/-! ## What a history does to a session -/

/-- What becomes of a session in a history is a matter of its moves, by induction on the history:
a secluded shell stays one, so that each step can be read as its move. -/
theorem view?_run (h : Secluded interpreter limits shell) (steps : List (Instant × Step))
    (id : Nat) :
    (shell.run steps).view? id
      = (moves id shell.nextId steps).foldl
          (fun view entry => proceed interpreter limits entry.1 view entry.2)
          (shell.view? id) := by
  induction steps generalizing shell with
  | nil => rfl
  | cons entry rest ih =>
      obtain ⟨now, step⟩ := entry
      obtain ⟨hlater, hnext⟩ := h.after now step
      have hrest := ih hlater
      rw [hnext, h.view?_after] at hrest
      change ((shell.after now step).run rest).view? id = _
      rw [hrest, moves]
      cases step.move? id shell.nextId <;> rfl

lemma execute_report (h : Secluded interpreter limits shell) (id : Nat) (line : String)
    (draws : Draws) :
    (shell.execute id line now draws).toOption.map Executed.report
      = (shell.view? id).map
          fun view => (interpreter.execute view.1 view.2 line now draws).report := by
  obtain rfl := h.interpreter
  simp only [execute, view?]
  cases shell.seat? id with
  | none => rfl
  | some seat => simp only [Except.toOption, Option.map_some]

/-- What a session is answered in a history is a matter of its moves. -/
theorem reports_eq (h : Secluded interpreter limits shell) (steps : List (Instant × Step))
    (id : Nat) :
    shell.reports id steps
      = replies interpreter limits (shell.view? id) (moves id shell.nextId steps) := by
  induction steps generalizing shell with
  | nil => rfl
  | cons entry rest ih =>
      obtain ⟨now, step⟩ := entry
      obtain ⟨hlater, hnext⟩ := h.after now step
      have hrest := ih hlater
      rw [hnext, h.view?_after] at hrest
      rw [reports, moves]
      cases hmove : step.move? id shell.nextId with
      | none => simpa [hmove] using hrest
      | some move =>
          simp only [hmove] at hrest ⊢
          cases move with
          | enter line draws =>
              simp only
              rw [replies, h.execute_report, hrest]
          | begin => exact hrest
          | finish => exact hrest

end Secluded

lemma store?_eq (shell : Shell) (id : Nat) : shell.store? id = (shell.view? id).map Prod.snd := by
  simp only [store?, view?, Option.map_map]
  rfl

lemma history_eq (shell : Shell) (id : Nat) :
    (shell.history id).toOption = (shell.view? id).map fun view => view.1.history := by
  simp only [history, view?]
  cases shell.seat? id <;> rfl

lemma cwd_eq (shell : Shell) (id : Nat) :
    (shell.cwd id).toOption = (shell.view? id).map fun view => view.1.cwd := by
  simp only [cwd, view?]
  cases shell.seat? id <;> rfl

/-- **Sessions with namespaces of their own do not interfere.**  Of two histories of a shell, let
one session undergo the same in each, at the same times and with the same draws.  Then its lines are
answered the same, and it ends with the same history, in the same directory and with the same
namespace, whatever other sessions have done and whatever its number is. -/
theorem isolated_sessions_agree (hostname : String) (policy : Log.Policy) (naming : Url.Naming)
    (limits : Limits) (start start' : Instant) (steps steps' : List (Instant × Step)) (id id' : Nat)
    (hmoves : moves id 1 steps = moves id' 1 steps') :
    let shell := new ⟨Registry.builtin, hostname, policy, naming⟩ .perSession limits start
    let shell' := new ⟨Registry.builtin, hostname, policy, naming⟩ .perSession limits start'
    shell.reports id steps = shell'.reports id' steps'
      ∧ ((shell.run steps).history id).toOption = ((shell'.run steps').history id').toOption
      ∧ ((shell.run steps).cwd id).toOption = ((shell'.run steps').cwd id').toOption
      ∧ (shell.run steps).store? id = (shell'.run steps').store? id' := by
  intro shell shell'
  have hshell : Secluded _ limits shell := secluded_new _ limits start
  have hshell' : Secluded _ limits shell' := secluded_new _ limits start'
  -- both shells begin at number one without sessions, so only the moves are left to differ
  have hreports : shell.reports id steps = shell'.reports id' steps' := by
    rw [hshell.reports_eq, hshell'.reports_eq]
    exact congrArg (replies _ limits none) hmoves
  have hview : (shell.run steps).view? id = (shell'.run steps').view? id' := by
    rw [hshell.view?_run, hshell'.view?_run]
    exact congrArg (List.foldl _ none) hmoves
  simp only [history_eq, cwd_eq, store?_eq, hview]
  exact ⟨hreports, trivial, trivial, trivial⟩

/-- A session has the shell to itself in one history; in the other it is the second of two, and the
first removes a directory of the same name. -/
theorem isolated_sessions_agree_of_removed :
    ∃ shell steps steps', shell = new .usual .perSession {} ⟨0, 0⟩
      ∧ steps = [(⟨0, 0⟩, .create), (⟨1, 0⟩, .execute 1 "cd Documents" []),
          (⟨2, 0⟩, .execute 1 "pwd" [])]
      ∧ steps' = [(⟨0, 0⟩, .create), (⟨0, 0⟩, .create),
          (⟨1, 0⟩, .execute 2 "cd Documents" []), (⟨1, 0⟩, .execute 1 "rm -r Documents" []),
          (⟨2, 0⟩, .execute 2 "pwd" []), (⟨3, 0⟩, .close 1)]
      ∧ shell.reports 2 steps' = [some ⟨.ok "", "/home/user/Documents"⟩,
          some ⟨.ok "/home/user/Documents", "/home/user/Documents"⟩]
      ∧ (shell.run steps').store? 2 = (shell.run steps).store? 1 := by
  refine ⟨_, _, _, rfl, rfl, rfl, ?_⟩
  obtain ⟨hreports, -, -, hstore⟩ :=
    isolated_sessions_agree defaultHostname {} .plain {} ⟨0, 0⟩ ⟨0, 0⟩
      [(⟨0, 0⟩, .create), (⟨1, 0⟩, .execute 1 "cd Documents" []), (⟨2, 0⟩, .execute 1 "pwd" [])]
      [(⟨0, 0⟩, .create), (⟨0, 0⟩, .create),
        (⟨1, 0⟩, .execute 2 "cd Documents" []), (⟨1, 0⟩, .execute 1 "rm -r Documents" []),
        (⟨2, 0⟩, .execute 2 "pwd" []), (⟨3, 0⟩, .close 1)] 1 2 rfl
  refine ⟨hreports.symm.trans ?_, hstore.symm⟩
  decide +kernel

end Shell

end VirtualShell
