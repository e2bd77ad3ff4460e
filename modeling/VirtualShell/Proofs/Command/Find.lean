import Mathlib.Data.List.Induction
import VirtualShell.Command.Listing
import VirtualShell.Proofs.Command.Unspaced
import VirtualShell.Proofs.Path.Behind

/-!
# What is found

**The request.**  The arguments of `find` are a sequence of criteria, each of one word or two
(`Criterion.words`), and they are read if and only if they can be taken apart in this way
(`readSearch_eq_ok_iff`).  Of the paths the first counts, of the filters of each kind the last.

**The answer.**  `Found` describes the lines that are printed, each with the node that it stands
for: all nodes at and below the start that the filters let through, in the order of their paths, and
each under a text that names it (`find_found`).  That they are lines at all rests on paths without
blanks.
-/

namespace VirtualShell

lemma Text.contains_iff {text needle : String} :
    Text.contains text needle = true ↔ needle.toList <:+: text.toList := by
  rw [Text.contains]
  generalize text.toList = chars
  induction chars with
  | nil => simp [Text.occursIn]
  | cons c rest ih =>
      have hbegins : (Text.after? needle.toList (c :: rest)).isSome = true
          ↔ needle.toList <+: c :: rest := by
        rw [Option.isSome_iff_exists]
        exact exists_congr fun behind => Text.after?_eq_some_iff.trans eq_comm
      rw [Text.occursIn, Bool.or_eq_true, ih, hbegins, List.infix_cons_iff]

namespace Command

open VirtualShell.Path (IsNormal trimmed)

/-! ## Criteria -/

/-- One thing that `find` is asked for. -/
inductive Criterion where
  | path (text : String)
  /-- A pattern for names, behind either of two flags that are read alike. -/
  | name (insensitive : Bool) (pattern : String)
  | type (kind : NodeKind)

namespace Criterion

/-- The words of a criterion. -/
def words : Criterion → List String
  | path text => [text]
  | name insensitive pattern => [if insensitive then "-iname" else "-name", pattern]
  | type .file => ["-type", "f"]
  | type .directory => ["-type", "d"]

/-- The path of a criterion that is one. -/
def path? : Criterion → Option String
  | path text => some text
  | _ => none

/-- The pattern of a criterion on names. -/
def pattern? : Criterion → Option String
  | name _ pattern => some pattern
  | _ => none

/-- The kind that a criterion asks for. -/
def kind? : Criterion → Option NodeKind
  | type kind => some kind
  | _ => none

/-- What a criterion does to what has been read before it. -/
def addTo (search : Search) : Criterion → Search
  | path text => { search with start := search.start <|> some text }
  | name _ pattern => { search with needle := some (patternNeedle pattern) }
  | type kind => { search with kind := some kind }

end Criterion

/-- Criteria that arguments are made of.  A path does not begin with a hyphen. -/
structure Asks (criteria : List Criterion) (args : List String) : Prop where
  words : args = criteria.flatMap Criterion.words
  plain : ∀ text, .path text ∈ criteria → text.toList.head? ≠ some '-'

/-- Where a search begins: at the first path, or in the working directory. -/
def startOf (criteria : List Criterion) : String :=
  (criteria.findSome? Criterion.path?).getD "."

/-- Whether the last filter of each kind lets a node through: its name contains the pattern without
quotes and asterisks, and it is of the kind. -/
structure Passes (criteria : List Criterion) (node : Node) : Prop where
  name : ∀ pattern, criteria.reverse.findSome? Criterion.pattern? = some pattern →
    (patternNeedle pattern).toList <:+: node.name.toList
  kind : ∀ kind, criteria.reverse.findSome? Criterion.kind? = some kind → node.kind = kind

variable {criteria : List Criterion} {args : List String} {search found : Search}

/-! ## Reading -/

lemma startsWith_hyphen_iff {text : String} :
    Text.startsWith "-" text = true ↔ text.toList.head? = some '-' := by
  rw [Text.startsWith, Option.isSome_iff_exists]
  simp only [Text.after?_eq_some_iff]
  cases text.toList with
  | nil => simp
  | cons c rest => simp

lemma readSearch_path {text : String} (h : text.toList.head? ≠ some '-') (search : Search)
    (args : List String) :
    readSearch search (text :: args) = readSearch (Criterion.addTo search (.path text)) args := by
  have hplain : Text.startsWith "-" text = false := by
    rwa [← Bool.not_eq_true, startsWith_hyphen_iff]
  have hflag : ∀ flag : String, flag.toList.head? = some '-' → text ≠ flag := by
    rintro flag hhead rfl
    exact h hhead
  have hname := hflag "-name" rfl
  have hiname := hflag "-iname" rfl
  have htype := hflag "-type" rfl
  cases args with
  | nil => simp [readSearch, hname, hiname, htype, hplain, Criterion.addTo]
  | cons next rest => simp [readSearch, hname, hiname, htype, hplain, Criterion.addTo]

/-- Arguments that are made of criteria are read; by induction on the criteria. -/
lemma readSearch_of_asks (h : Asks criteria args) :
    readSearch search args = .ok (criteria.foldl Criterion.addTo search) := by
  obtain ⟨rfl, hplain⟩ := h
  induction criteria generalizing search with
  | nil => rfl
  | cons criterion rest ih =>
      have hrest := fun text htext => hplain text (List.mem_cons_of_mem criterion htext)
      rw [List.flatMap_cons, List.foldl_cons, ← ih hrest]
      cases criterion with
      | path text => exact readSearch_path (hplain text List.mem_cons_self) search _
      | name insensitive pattern =>
          cases insensitive <;> simp [Criterion.words, readSearch, Criterion.addTo]
      | type kind => cases kind <;> simp [Criterion.words, readSearch, Criterion.addTo]

/-- And only those; by the cases of reading, which takes one criterion off the front each time. -/
lemma exists_asks (h : readSearch search args = .ok found) :
    ∃ criteria, Asks criteria args := by
  have hcons : ∀ (criterion : Criterion) {rest : List String},
      (∀ text, criterion = .path text → text.toList.head? ≠ some '-') →
      (∃ criteria, Asks criteria rest) → ∃ criteria, Asks criteria (criterion.words ++ rest) := by
    rintro criterion rest hplain ⟨criteria, rfl, hall⟩
    refine ⟨criterion :: criteria, by rw [List.flatMap_cons], fun text htext => ?_⟩
    rcases List.mem_cons.mp htext with heq | hin
    · exact hplain text heq.symm
    · exact hall text hin
  have hpath : ∀ (text : String) {rest : List String}, ¬ Text.startsWith "-" text = true →
      (∃ criteria, Asks criteria rest) → ∃ criteria, Asks criteria (text :: rest) := by
    intro text rest hplain
    refine hcons (.path text) fun other heq => ?_
    rwa [← Criterion.path.inj heq, Ne, ← startsWith_hyphen_iff]
  fun_induction readSearch search args with
  | case1 search => exact ⟨[], rfl, by simp⟩
  | case5 search arg _ _ hplain => exact hpath arg hplain ⟨[], rfl, by simp⟩
  | case6 search arg value rest hname ih =>
      rw [Bool.or_eq_true, decide_eq_true_eq, decide_eq_true_eq] at hname
      rcases hname with rfl | rfl
      · exact hcons (.name false value) (by simp) (ih h)
      · exact hcons (.name true value) (by simp) (ih h)
  | case7 search rest _ ih => exact hcons (.type .file) (by simp) (ih h)
  | case8 search rest _ _ ih => exact hcons (.type .directory) (by simp) (ih h)
  | case11 search arg value rest _ _ hplain ih => exact hpath arg hplain (ih h)
  -- in all other cases there is a complaint
  | case2 | case3 | case4 | case9 | case10 => simp at h

/-- **Reading arguments is taking them apart into criteria.** -/
theorem readSearch_eq_ok_iff :
    readSearch search args = .ok found
      ↔ ∃ criteria, Asks criteria args ∧ found = criteria.foldl Criterion.addTo search := by
  constructor
  · intro h
    obtain ⟨criteria, hasks⟩ := exists_asks h
    rw [readSearch_of_asks hasks] at h
    exact ⟨criteria, hasks, (Except.ok.inj h).symm⟩
  · rintro ⟨criteria, hasks, rfl⟩
    exact readSearch_of_asks hasks

/-! ## What has been read -/

/-- Of the paths the first counts. -/
lemma start_foldl (criteria : List Criterion) (search : Search) :
    (criteria.foldl Criterion.addTo search).start
      = (search.start <|> criteria.findSome? Criterion.path?) := by
  induction criteria generalizing search with
  | nil => simp
  | cons criterion rest ih =>
      obtain ⟨start, needle, kind⟩ := search
      rw [List.foldl_cons, ih, List.findSome?_cons]
      cases criterion <;> cases start <;> rfl

/-- Of the patterns and of the kinds the last counts; by induction from the last criterion. -/
lemma filters_foldl (criteria : List Criterion) :
    (criteria.foldl Criterion.addTo {}).needle
        = (criteria.reverse.findSome? Criterion.pattern?).map patternNeedle
      ∧ (criteria.foldl Criterion.addTo {}).kind = criteria.reverse.findSome? Criterion.kind? := by
  induction criteria using List.reverseRecOn with
  | nil => exact ⟨rfl, rfl⟩
  | append_singleton before last ih =>
      obtain ⟨hneedle, hkind⟩ := ih
      rw [List.foldl_append, List.foldl_cons, List.foldl_nil, List.reverse_concat,
        List.findSome?_cons, List.findSome?_cons]
      cases last with
      | path text => exact ⟨hneedle, hkind⟩
      | name insensitive pattern => exact ⟨rfl, hkind⟩
      | type kind => exact ⟨hneedle, rfl⟩

lemma Search.accepts_iff {node : Node} :
    search.accepts node = true
      ↔ (∀ needle, search.needle = some needle → needle.toList <:+: node.name.toList)
        ∧ ∀ kind, search.kind = some kind → node.kind = kind := by
  obtain ⟨start, needle, kind⟩ := search
  cases needle <;> cases kind <;> simp [Search.accepts, Text.contains_iff]

/-- What has been read lets a node through if the last filters do. -/
lemma accepts_foldl_iff {node : Node} :
    (criteria.foldl Criterion.addTo {}).accepts node = true ↔ Passes criteria node := by
  obtain ⟨hneedle, hkind⟩ := filters_foldl criteria
  rw [Search.accepts_iff, hneedle, hkind]
  constructor
  · rintro ⟨hname, hkinds⟩
    exact ⟨fun pattern hpattern => hname _ (by rw [hpattern, Option.map_some]), hkinds⟩
  · rintro ⟨hname, hkinds⟩
    refine ⟨fun needle hneedle => ?_, hkinds⟩
    obtain ⟨pattern, hpattern, rfl⟩ := Option.map_eq_some_iff.mp hneedle
    exact hname pattern hpattern

/-! ## Showing -/

/-- What `find` has found at and below a node: the lines that it prints, each with the node that it
stands for. -/
structure Found (store : Store) (cwd : String) (criteria : List Criterion) (top : Node)
    (output : String) (entries : List (String × Node)) : Prop where
  text : output = "\n".intercalate (entries.map Prod.fst)
  lines : Text.linesOf output = entries.map Prod.fst
  byPath : (entries.map Prod.snd).Pairwise fun a b =>
    Text.bytesOf a.path < Text.bytesOf b.path
  complete : ∀ node, node ∈ entries.map Prod.snd ↔ node ∈ store.nodes
    ∧ (node.path = top.path ∨ Path.isBelow node.path top.path = true) ∧ Passes criteria node
  /-- A node is shown behind the start as it was typed. -/
  rendered : ∀ entry ∈ entries, entry.1 = if entry.2.path = top.path then startOf criteria
    else trimmed (startOf criteria) ++ "/" ++ Path.below entry.2.path top.path
  named : ∀ entry ∈ entries, Path.resolve cwd entry.1 = entry.2.path

variable {call : Invocation} {store : Store}

/-- A path below the root of a search is shown behind the start as it was typed. -/
lemma foundAs_eq (start root found : String) :
    foundAs start root found
      = if found = root then start else trimmed start ++ "/" ++ Path.below found root := by
  rw [foundAs]
  split
  · rfl
  · rename_i hne
    rw [Path.rebase, if_neg hne, Path.join, if_pos rfl, ← String.append_assoc, trimmed]

/-- What is shown for a path is a line, and it names the path. -/
lemma foundAs_names {start root path : String} (hstart : start ≠ "")
    (hspaced : Text.Unspaced start.toList) (hroot : Path.resolve cwd start = root)
    (hnormal : IsNormal path) (hpath : Text.Unspaced path.toList)
    (hat : path = root ∨ Path.isBelow path root = true) :
    Text.IsLine (foundAs start root path) ∧ Path.resolve cwd (foundAs start root path) = path := by
  rw [foundAs_eq]
  split
  · rename_i heq
    exact ⟨Text.isLine_of_unspaced hstart hspaced, hroot.trans heq.symm⟩
  · rename_i hne
    have hbelow : Path.isBelow path root = true := hat.resolve_left hne
    subst hroot
    exact ⟨Text.isLine_of_unspaced (by simp) (Path.unspaced_behind hspaced hpath),
      Path.resolve_behind hstart hnormal hbelow⟩

/-- All nodes at and below a start that the filters let through, if the start is a word. -/
lemma found_filter (hstart : startOf criteria ≠ "")
    (hspaced : Text.Unspaced (startOf criteria).toList) (hwell : store.WellFormed)
    (hstore : store.Unspaced) {top : Node}
    (hget : store.get? (Path.resolve cwd (startOf criteria)) = some top)
    (hsearch : ∀ node, search.accepts node = true ↔ Passes criteria node) :
    Found store cwd criteria top
      ("\n".intercalate (((top :: store.descendants top.path).filter search.accepts).map
        fun node => foundAs (startOf criteria) top.path node.path))
      (((top :: store.descendants top.path).filter search.accepts).map
        fun node => (foundAs (startOf criteria) top.path node.path, node)) := by
  have htop : top ∈ store.nodes := Store.mem_of_get? hget
  have hnames : ∀ node ∈ (top :: store.descendants top.path).filter search.accepts,
      Text.IsLine (foundAs (startOf criteria) top.path node.path)
        ∧ Path.resolve cwd (foundAs (startOf criteria) top.path node.path) = node.path := by
    intro node hnode
    obtain ⟨hmem, hat⟩ := (hwell.mem_cons_descendants htop).mp (List.mem_filter.mp hnode).1
    exact foundAs_names hstart hspaced (Store.path_of_get? hget).symm (hwell.normal node hmem)
      (hstore node hmem) hat
  constructor
  case text => simp [Function.comp_def]
  case lines =>
    rw [Text.linesOf_intercalate (List.forall_mem_map.mpr fun node hnode => (hnames node hnode).1)]
    simp [Function.comp_def]
  case byPath =>
    simp only [List.map_map, Function.comp_def, List.map_id']
    exact ((hwell.cons_descendants_increasing htop).filter _).imp Text.bytesOf_lt_iff.mpr
  case complete =>
    intro node
    simp only [List.map_map, Function.comp_def, List.map_id']
    rw [List.mem_filter, hwell.mem_cons_descendants htop, hsearch, and_assoc]
  case rendered => exact List.forall_mem_map.mpr fun node _ => foundAs_eq _ _ _
  case named => exact List.forall_mem_map.mpr fun node hnode => (hnames node hnode).2

/-- A search starts at an argument or in the working directory, so at a word. -/
lemma startOf_word (hasks : Asks criteria args) (hargs : ∀ arg ∈ args, arg ≠ "")
    (hspaced : ∀ arg ∈ args, Text.Unspaced arg.toList) :
    startOf criteria ≠ "" ∧ Text.Unspaced (startOf criteria).toList := by
  rw [startOf]
  cases hpath : criteria.findSome? Criterion.path? with
  | none => exact ⟨by decide, by decide⟩
  | some text =>
      obtain ⟨criterion, hmem, htext⟩ := List.exists_of_findSome?_eq_some hpath
      have harg : text ∈ args := by
        rw [hasks.words, List.mem_flatMap]
        refine ⟨criterion, hmem, ?_⟩
        cases criterion <;> simp_all [Criterion.path?, Criterion.words]
      exact ⟨hargs text harg, hspaced text harg⟩

/-- Arguments that are no criteria are an error. -/
lemma find_failed (draws : Draws) (h : ¬ ∃ criteria, Asks criteria call.args) :
    ∃ complaint, (find.run call store draws).verdict = .failed complaint := by
  cases hread : readSearch {} call.args with
  | error complaint => exact ⟨complaint, by simp only [find, Command.run, hread]⟩
  | ok search =>
      obtain ⟨criteria, hasks, -⟩ := readSearch_eq_ok_iff.mp hread
      exact absurd ⟨criteria, hasks⟩ h

/-- **What `find` prints.**  A start that is not there is shown by nothing. -/
theorem find_found (criteria : List Criterion) (draws : Draws) (hcall : call.Unspaced)
    (hargs : ∀ arg ∈ call.args, arg ≠ "") (hwell : store.WellFormed) (hstore : store.Unspaced)
    (hasks : Asks criteria call.args) :
    ∃ output, (find.run call store draws).verdict = .ok output
      ∧ (store.get? (call.resolve (startOf criteria)) = none → output = "")
      ∧ ∀ top, store.get? (call.resolve (startOf criteria)) = some top →
        ∃ entries, Found store call.cwd criteria top output entries := by
  obtain ⟨hne, hspaced⟩ := startOf_word hasks hargs hcall.args
  have hread : readSearch {} call.args = .ok (criteria.foldl Criterion.addTo {}) :=
    readSearch_of_asks hasks
  have hstart : (criteria.foldl Criterion.addTo {}).start.getD "." = startOf criteria := by
    rw [start_foldl]
    rfl
  cases hget : store.get? (call.resolve (startOf criteria)) with
  | none =>
      refine ⟨"", ?_, fun _ => rfl, by simp⟩
      simp only [find, Command.run, hread, hstart, hget]
  | some top =>
      have hrun : (find.run call store draws).verdict = .ok ("\n".intercalate
          (((top :: store.descendants top.path).filter
            (criteria.foldl Criterion.addTo {}).accepts).map
              fun node => foundAs (startOf criteria) top.path node.path)) := by
        simp only [find, Command.run, hread, hstart, hget]
        rw [← Store.path_of_get? hget]
      refine ⟨_, hrun, by simp, fun other hother => ?_⟩
      obtain rfl := Option.some.inj hother
      exact ⟨_, found_filter hne hspaced hwell hstore hget fun _ => accepts_foldl_iff⟩

end Command

end VirtualShell
