import Mathlib.Data.List.TakeWhile
import VirtualShell.Proofs.Log.Policy

/-!
# What is cut out of an address

The user information of a text is found by searching: for the first `://`, for the next slash, for
the last at sign in front of it.  `Userinfo.IsOf` says what is found without a search, so that it
can be read off a text in any way it happens to be written (`userinfo?_eq_some_iff`).

**Any text.**  Where the user information has been cut out, the two ends that meet make no new one
(`Userinfo.IsOf.userinfo?_eq_none`): the `://` in front is still the first, and the at sign was the
last.  So a text is cleared by one cut (`cleared_by_one_cut`).

**Addresses.**  The search takes no notice of a question mark or a number sign.  An address with a
query that holds an at sign, and no slash in front of it, loses its host and a part of its query
(`stripCredentials_eq_bare_iff`).
-/

namespace VirtualShell

namespace Text

variable {c : Char} {needle text left right : List Char}

/-! ## First and last occurrences -/

/-- What is cut at is the first occurrence: there is none in what stands before its end. -/
lemma not_infix_of_cutAt? (hneedle : needle ≠ []) (h : cutAt? needle text = some (left, right)) :
    ¬ needle <:+: left ++ needle.dropLast := by
  induction text generalizing left with
  | nil => simp [cutAt?, hneedle] at h
  | cons d rest ih =>
      have hwhole := cutAt?_eq_some h
      simp only [cutAt?] at h
      cases hafter : after? needle (d :: rest) with
      | some behind =>
          simp only [hafter, Option.some_inj, Prod.mk.injEq] at h
          obtain ⟨rfl, -⟩ := h
          intro hoccurs
          have hlength := hoccurs.length_le
          have hpos := List.length_pos_iff.mpr hneedle
          rw [List.nil_append, List.length_dropLast] at hlength
          omega
      | none =>
          simp only [hafter] at h
          obtain ⟨⟨front, back⟩, hcut, hsides⟩ := Option.map_eq_some_iff.mp h
          obtain ⟨rfl, rfl⟩ := Prod.mk.inj hsides
          rw [List.cons_append, List.infix_cons_iff, not_or]
          refine ⟨fun hbegins => ?_, ih hcut⟩
          -- a beginning of the text that has been passed over
          have hbegin : d :: (front ++ needle.dropLast) <+: d :: rest := by
            rw [hwhole, List.cons_append, List.cons_prefix_cons]
            exact ⟨rfl, List.prefix_append_right_inj front |>.mpr
              ((List.dropLast_prefix needle).trans (List.prefix_append needle back))⟩
          obtain ⟨behind, hbehind⟩ := hbegins.trans hbegin
          rw [after?_eq_some_iff.mpr hbehind.symm] at hafter
          simp at hafter

/-- The first occurrence is cut at, whatever follows it. -/
lemma cutAt?_of_not_infix (hneedle : needle ≠ []) (right : List Char)
    (h : ¬ needle <:+: left ++ needle.dropLast) :
    cutAt? needle (left ++ (needle ++ right)) = some (left, right) := by
  have hpos := List.length_pos_iff.mpr hneedle
  induction left with
  | nil =>
      obtain ⟨b, bs, rfl⟩ := List.exists_cons_of_ne_nil hneedle
      have hafter : after? (b :: bs) (b :: (bs ++ right)) = some right :=
        after?_eq_some_iff.mpr rfl
      simp only [List.nil_append, List.cons_append, cutAt?, hafter]
  | cons d rest ih =>
      rw [List.cons_append, List.infix_cons_iff, not_or] at h
      have hafter : after? needle (d :: (rest ++ (needle ++ right))) = none := by
        rw [Option.eq_none_iff_forall_ne_some]
        intro behind hbehind
        have hhere : needle <+: d :: (rest ++ (needle ++ right)) :=
          ⟨behind, (after?_eq_some_iff.mp hbehind).symm⟩
        have hfront : d :: (rest ++ needle.dropLast) <+: d :: (rest ++ (needle ++ right)) := by
          rw [List.cons_prefix_cons]
          exact ⟨rfl, (List.prefix_append_right_inj rest).mpr
            ((List.dropLast_prefix needle).trans (List.prefix_append needle right))⟩
        refine h.1 (List.prefix_of_prefix_length_le hhere hfront ?_)
        simp only [List.length_cons, List.length_append, List.length_dropLast]
        omega
      simp only [List.cons_append, cutAt?, hafter, ih h.2, Option.map_some]

lemma cutAt?_eq_none_iff (hneedle : needle ≠ []) :
    cutAt? needle text = none ↔ ¬ needle <:+: text := by
  induction text with
  | nil => simp [cutAt?, hneedle]
  | cons d rest ih =>
      have hbegins : needle <+: d :: rest ↔ after? needle (d :: rest) ≠ none := by
        rw [Option.ne_none_iff_exists']
        exact exists_congr fun behind => by rw [after?_eq_some_iff, eq_comm]
      rw [List.infix_cons_iff, hbegins, not_or, cutAt?, ← ih]
      cases after? needle (d :: rest) <;> simp

lemma cutAtLast?_eq_some_iff :
    cutAtLast? c text = some (left, right) ↔ text = left ++ c :: right ∧ c ∉ right := by
  refine ⟨fun h => ⟨cutAtLast?_eq_some h, ?_⟩, ?_⟩
  · simp only [cutAtLast?] at h
    split at h
    · simp at h
    · obtain ⟨-, rfl⟩ := Prod.mk.inj (Option.some.inj h)
      intro hc
      simpa using List.mem_takeWhile_imp (List.mem_reverse.mp hc)
  · rintro ⟨rfl, hright⟩
    exact cutAtLast?_append left hright

lemma cutAtLast?_eq_none_iff : cutAtLast? c text = none ↔ c ∉ text := by
  refine ⟨fun h hc => ?_, fun h => ?_⟩
  · obtain ⟨left, right, rfl⟩ := List.append_of_mem hc
    obtain ⟨_, _, hcut, -⟩ := exists_cutAtLast? c left right
    simp [hcut] at h
  · rw [Option.eq_none_iff_forall_ne_some]
    rintro ⟨left, right⟩ hcut
    exact h (cutAtLast?_eq_some hcut ▸ by simp)

end Text

namespace Log

open Text

variable {address scheme front rest user : List Char} {cut : Userinfo}

/-! ## User information -/

/-- The mark between the scheme of an address and its authority. -/
def schemeMark : List Char := "://".toList

/-- What the user information of a text is.  It stands behind the first `://`; in a text without
one it stands at the beginning, and only if it holds a colon.  It ends with the last at sign in
front of the next slash. -/
structure Userinfo.IsOf (cut : Userinfo) (address : List Char) : Prop where
  whole : address = cut.before ++ (cut.removed ++ cut.after)
  placed : (∃ scheme, cut.before = scheme ++ schemeMark
        ∧ ¬ schemeMark <:+: scheme ++ schemeMark.dropLast)
      ∨ cut.before = [] ∧ ¬ schemeMark <:+: address ∧ ':' ∈ cut.removed
  closed : ∃ user, cut.removed = user ++ ['@'] ∧ '/' ∉ user
  last : '@' ∉ cut.after.takeWhile (· ≠ '/')

/-- A text without a slash belongs to the authority that it begins. -/
lemma authority_append (h : '/' ∉ front) (rest : List Char) :
    authority (front ++ rest) = (front ++ (authority rest).1, (authority rest).2) := by
  have hall : ∀ d ∈ front, decide (d ≠ '/') = true := by
    intro d hd
    rw [decide_eq_true_eq]
    exact fun hslash => h (hslash ▸ hd)
  rw [authority, List.takeWhile_append_of_pos hall, List.dropWhile_append_of_pos hall]
  rfl

lemma slash_not_mem_authority : '/' ∉ (authority rest).1 := by
  intro hslash
  simpa using List.mem_takeWhile_imp hslash

lemma authority_append_snd (rest : List Char) : (authority rest).1 ++ (authority rest).2 = rest :=
  List.takeWhile_append_dropWhile

/-- Behind an authority there is no more of it. -/
lemma authority_of_rest : authority (authority rest).2 = ([], (authority rest).2) := by
  have hhead := List.head?_dropWhile_not (fun d => decide (d ≠ '/')) rest
  simp only [authority]
  cases hback : rest.dropWhile (fun d => decide (d ≠ '/')) with
  | nil => rfl
  | cons d more =>
      rw [hback] at hhead
      have hslash : d = '/' := by simpa using hhead
      simp [hslash]

/-- What the search in an authority finds. -/
lemma cutAtLast?_authority {host : List Char}
    (h : cutAtLast? '@' (authority rest).1 = some (user, host)) :
    rest = user ++ ['@'] ++ (host ++ (authority rest).2) ∧ '/' ∉ user
      ∧ '@' ∉ (host ++ (authority rest).2).takeWhile (· ≠ '/') := by
  obtain ⟨hauthority, hhost⟩ := cutAtLast?_eq_some_iff.mp h
  have hslash : '/' ∉ user ++ '@' :: host := hauthority ▸ slash_not_mem_authority
  simp only [List.mem_append, List.mem_cons, not_or] at hslash
  refine ⟨?_, hslash.1, ?_⟩
  · conv_lhs => rw [← authority_append_snd rest, hauthority]
    simp
  · have hends : (host ++ (authority rest).2).takeWhile (· ≠ '/') = host := by
      have hfirst := congrArg Prod.fst (authority_append hslash.2.2 (authority rest).2)
      rwa [authority_of_rest, List.append_nil] at hfirst
    rwa [hends]

/-- An authority whose last at sign is known is cut there. -/
lemma cutAtLast?_of_last (hslash : '/' ∉ user) {after : List Char}
    (hlast : '@' ∉ after.takeWhile (· ≠ '/')) :
    cutAtLast? '@' (authority (user ++ ['@'] ++ after)).1 = some (user, (authority after).1)
      ∧ (authority (user ++ ['@'] ++ after)).2 = (authority after).2 := by
  have hfront : '/' ∉ user ++ ['@'] := by simpa using hslash
  rw [authority_append hfront]
  refine ⟨?_, rfl⟩
  rw [List.append_assoc]
  exact cutAtLast?_append user hlast

/-- **The search finds the user information.** -/
theorem userinfo?_eq_some_iff : userinfo? address = some cut ↔ cut.IsOf address := by
  constructor
  · intro h
    simp only [userinfo?] at h
    cases hscheme : cutAt? [':', '/', '/'] address with
    | some sides =>
        obtain ⟨scheme, rest⟩ := sides
        simp only [hscheme, Option.map_eq_some_iff] at h
        obtain ⟨⟨user, host⟩, hcut, rfl⟩ := h
        obtain ⟨hrest, hslash, hlast⟩ := cutAtLast?_authority hcut
        refine ⟨?_, Or.inl ⟨scheme, rfl, not_infix_of_cutAt? (by decide) hscheme⟩,
          ⟨user, rfl, hslash⟩, hlast⟩
        rw [cutAt?_eq_some hscheme]
        conv_lhs => rw [hrest]
        simp
    | none =>
        simp only [hscheme] at h
        cases hcut : cutAtLast? '@' (authority address).1 with
        | none => simp [hcut] at h
        | some sides =>
            obtain ⟨user, host⟩ := sides
            simp only [hcut, Option.ite_none_right_eq_some, Option.some_inj] at h
            obtain ⟨hcolon, rfl⟩ := h
            obtain ⟨hrest, hslash, hlast⟩ := cutAtLast?_authority hcut
            refine ⟨hrest, Or.inr ⟨rfl, (cutAt?_eq_none_iff (by decide)).mp hscheme, ?_⟩,
              ⟨user, rfl, hslash⟩, hlast⟩
            exact List.mem_append_left _ hcolon
  · rintro ⟨rfl, hplaced, ⟨user, hremoved, hslash⟩, hlast⟩
    obtain ⟨before, removed, after⟩ := cut
    dsimp only at hplaced hremoved hlast ⊢
    subst hremoved
    obtain ⟨hcut, hrest⟩ := cutAtLast?_of_last hslash hlast
    rcases hplaced with ⟨scheme, rfl, hfirst⟩ | ⟨rfl, hnone, hcolon⟩
    · have hscheme : cutAt? [':', '/', '/'] (scheme ++ schemeMark ++ (user ++ ['@'] ++ after))
          = some (scheme, user ++ ['@'] ++ after) := by
        rw [List.append_assoc]
        exact cutAt?_of_not_infix (by decide) _ hfirst
      simp only [userinfo?, hscheme, hcut, hrest, Option.map_some, authority_append_snd]
      rfl
    · have hscheme : cutAt? [':', '/', '/'] ([] ++ (user ++ ['@'] ++ after)) = none :=
        (cutAt?_eq_none_iff (by decide)).mpr hnone
      have hin : ':' ∈ user := by simpa using hcolon
      rw [List.nil_append] at hscheme
      simp only [userinfo?, List.nil_append, hscheme, hcut, hrest, if_pos hin,
        authority_append_snd]

/-- Where user information has been cut out there is none left. -/
lemma Userinfo.IsOf.userinfo?_eq_none (h : cut.IsOf address) :
    userinfo? (cut.before ++ cut.after) = none := by
  have hhost : cutAtLast? '@' (authority cut.after).1 = none := cutAtLast?_eq_none_iff.mpr h.last
  rcases h.placed with ⟨scheme, hbefore, hfirst⟩ | ⟨hbefore, hnone, -⟩
  · have hscheme : cutAt? [':', '/', '/'] (cut.before ++ cut.after) = some (scheme, cut.after) := by
      rw [hbefore, List.append_assoc]
      exact cutAt?_of_not_infix (by decide) _ hfirst
    simp only [userinfo?, hscheme, hhost, Option.map_none]
  · have hscheme : cutAt? [':', '/', '/'] cut.after = none := by
      refine (cutAt?_eq_none_iff (by decide)).mpr fun hoccurs => hnone (hoccurs.trans ?_)
      rw [h.whole]
      exact ⟨cut.before ++ cut.removed, [], by simp⟩
    rw [hbefore, List.nil_append]
    simp only [userinfo?, hscheme, hhost]

/-! ## Any text -/

lemma stripCredentials_of_isOf {text : String} (h : cut.IsOf text.toList) :
    stripCredentials text = String.ofList (cut.before ++ cut.after) := by
  rw [stripCredentials, userinfo?_eq_some_iff.mpr h]

lemma stripCredentials_of_none {text : String} (h : userinfo? text.toList = none) :
    stripCredentials text = text := by
  rw [stripCredentials, h]

/-- **One cut clears a text.**  Whatever the text, what is left of it has no user information, so
that another cut changes nothing.  Either there was none, and the log shows the text, shortened if
it is long; or it was one block without a slash and closed by an at sign, and what is left is the
text without that block, which in the log has a marker in its place. -/
theorem cleared_by_one_cut (policy : Policy) (hredacts : policy.redacts = true) (text : String) :
    stripCredentials (stripCredentials text) = stripCredentials text
      ∧ (∀ cut : Userinfo, ¬ cut.IsOf (stripCredentials text).toList)
      ∧ ((stripCredentials text = text ∧ policy.redact text = policy.truncate text)
        ∨ ∃ before block after, text = before ++ (block ++ "@") ++ after ∧ '/' ∉ block.toList
          ∧ stripCredentials text = before ++ after
          ∧ policy.redact text = before ++ "[REDACTED]@" ++ after) := by
  cases hfound : userinfo? text.toList with
  | none =>
      have hsame := stripCredentials_of_none hfound
      refine ⟨by rw [hsame, hsame], fun cut hcut => ?_, Or.inl ⟨hsame, ?_⟩⟩
      · rw [hsame, ← userinfo?_eq_some_iff, hfound] at hcut
        simp at hcut
      · simp only [Policy.redact, hredacts, if_true, hfound]
  | some cut =>
      have hcut := userinfo?_eq_some_iff.mp hfound
      have hstrip := stripCredentials_of_isOf hcut
      have hleft : userinfo? (stripCredentials text).toList = none := by
        rw [hstrip, String.toList_ofList]
        exact hcut.userinfo?_eq_none
      obtain ⟨user, hremoved, hslash⟩ := hcut.closed
      refine ⟨stripCredentials_of_none hleft, fun other hother => ?_, Or.inr
        ⟨String.ofList cut.before, String.ofList user, String.ofList cut.after, ?_, ?_, ?_, ?_⟩⟩
      · rw [← userinfo?_eq_some_iff, hleft] at hother
        simp at hother
      · apply String.toList_inj.mp
        rw [hcut.whole, hremoved]
        simp
      · rwa [String.toList_ofList]
      · rw [hstrip, String.ofList_append]
      · simp only [Policy.redact, hredacts, if_true, hfound]

/-- Two at signs stand in front of the first slash and one behind it, and the colon is left where
a scheme would have it. -/
theorem cleared_by_one_cut_of_two_signs :
    let text := "u:p@x@s:/h@i"
    ({} : Policy).redacts = true ∧ ({} : Policy).redact text = "[REDACTED]@s:/h@i"
      ∧ stripCredentials text = "s:/h@i" ∧ stripCredentials (stripCredentials text) = "s:/h@i" := by
  intro text
  have hstrip : stripCredentials text = "s:/h@i" := by decide +kernel
  obtain ⟨hagain, -, -⟩ := cleared_by_one_cut {} rfl text
  exact ⟨rfl, by decide +kernel, hstrip, hagain.trans hstrip⟩

/-! ## Addresses -/

/-- A text without the characters that end an authority or its user information. -/
def Undelimited (text : String) : Prop := ∀ c ∈ ['/', '?', '#', '@'], c ∉ text.toList

instance (text : String) : Decidable (Undelimited text) :=
  List.decidableBAll (fun c => c ∉ text.toList) ['/', '?', '#', '@']

/-- An address by its parts.  Its path, query and fragment are left in one. -/
structure Address where
  scheme : String
  user? : Option String
  host : String
  rest : String
  scheme_ne : scheme ≠ ""
  scheme_plain : ':' ∉ scheme.toList ∧ '/' ∉ scheme.toList
  user_plain : ∀ user ∈ user?, Undelimited user
  host_ne : host ≠ ""
  host_plain : Undelimited host
  rest_begins : ∀ c ∈ rest.toList.head?, c = '/' ∨ c = '?' ∨ c = '#'

namespace Address

/-- The user information with its at sign. -/
def userText (address : Address) : String :=
  match address.user? with
  | some user => user ++ "@"
  | none => ""

/-- The address as it is written. -/
def text (address : Address) : String :=
  address.scheme ++ "://" ++ address.userText ++ address.host ++ address.rest

/-- The address without its user information. -/
def bare (address : Address) : String :=
  address.scheme ++ "://" ++ address.host ++ address.rest

lemma toList_text (address : Address) : address.text.toList
    = address.scheme.toList ++ schemeMark
      ++ (address.userText.toList ++ address.host.toList ++ address.rest.toList) := by
  simp [text, schemeMark]

lemma toList_bare (address : Address) : address.bare.toList
    = address.scheme.toList ++ schemeMark ++ (address.host.toList ++ address.rest.toList) := by
  simp [bare, schemeMark]

/-- The mark behind the scheme is the first. -/
lemma mark_first (address : Address) :
    ¬ schemeMark <:+: address.scheme.toList ++ schemeMark.dropLast := by
  rintro ⟨left, right, hwhole⟩
  have hcolons := congrArg (List.count '/') hwhole
  have hnone := List.count_eq_zero.mpr address.scheme_plain.2
  simp only [List.count_append, hnone] at hcolons
  have htwo : schemeMark.count '/' = 2 := by decide
  have hone : schemeMark.dropLast.count '/' = 1 := by decide
  omega

lemma slash_not_mem_front (address : Address) :
    '/' ∉ address.userText.toList ++ address.host.toList := by
  have huser : '/' ∉ address.userText.toList := by
    rw [userText]
    cases huser : address.user? with
    | none => simp
    | some user => simpa using address.user_plain user huser '/' (by simp)
  exact List.not_mem_append huser (address.host_plain '/' (by simp))

end Address

/-- With an at sign in front of the first slash of what follows the host, the cut goes through it:
the host falls, and not all of what follows it is left. -/
lemma exists_isOf_of_mem (hfirst : ¬ schemeMark <:+: scheme ++ schemeMark.dropLast)
    (hfront : '/' ∉ front) (hsign : '@' ∈ rest.takeWhile (· ≠ '/')) :
    ∃ cut : Userinfo, cut.IsOf (scheme ++ schemeMark ++ (front ++ rest))
      ∧ cut.before = scheme ++ schemeMark ∧ cut.after.length < rest.length := by
  obtain ⟨⟨left, right⟩, hcut⟩ := Option.ne_none_iff_exists'.mp
    (mt cutAtLast?_eq_none_iff.mp (not_not.mpr hsign))
  obtain ⟨hrest, hslash, hlast⟩ := cutAtLast?_authority hcut
  refine ⟨⟨scheme ++ schemeMark, front ++ left ++ ['@'], right ++ (authority rest).2⟩,
    ⟨?_, Or.inl ⟨scheme, rfl, hfirst⟩, ⟨front ++ left, rfl, ?_⟩, hlast⟩, rfl, ?_⟩
  · conv_lhs => rw [hrest]
    simp
  · exact List.not_mem_append hfront hslash
  · conv_rhs => rw [hrest]
    simp only [List.length_append, List.length_singleton]
    omega

/-- User information that is all in front of the first slash is cut out, and nothing else. -/
lemma Address.stripCredentials_text (address : Address)
    (hsign : '@' ∉ address.rest.toList.takeWhile (· ≠ '/')) :
    stripCredentials address.text = address.bare := by
  have hhost : '@' ∉ (address.host.toList ++ address.rest.toList).takeWhile (· ≠ '/') := by
    have hslash : '/' ∉ address.host.toList := address.host_plain '/' (by simp)
    have hends : (address.host.toList ++ address.rest.toList).takeWhile (· ≠ '/')
        = address.host.toList ++ address.rest.toList.takeWhile (· ≠ '/') :=
      congrArg Prod.fst (authority_append hslash address.rest.toList)
    rw [hends]
    exact List.not_mem_append (address.host_plain '@' (by simp)) hsign
  cases huser : address.user? with
  | none =>
      have htext : address.text = address.bare := by simp [text, bare, userText, huser]
      rw [htext]
      refine stripCredentials_of_none ?_
      have hscheme : cutAt? [':', '/', '/'] address.bare.toList
          = some (address.scheme.toList, address.host.toList ++ address.rest.toList) := by
        rw [toList_bare, List.append_assoc]
        exact cutAt?_of_not_infix (by decide) _ address.mark_first
      have hnone : cutAtLast? '@' (authority (address.host.toList ++ address.rest.toList)).1
          = none := cutAtLast?_eq_none_iff.mpr hhost
      simp only [userinfo?, hscheme, hnone, Option.map_none]
  | some user =>
      have hcut : Userinfo.IsOf ⟨address.scheme.toList ++ schemeMark, user.toList ++ ['@'],
          address.host.toList ++ address.rest.toList⟩ address.text.toList := by
        refine ⟨?_, Or.inl ⟨_, rfl, address.mark_first⟩, ⟨_, rfl, ?_⟩, hhost⟩
        · simp [toList_text, userText, huser]
        · exact address.user_plain user huser '/' (by simp)
      rw [stripCredentials_of_isOf hcut]
      apply String.toList_inj.mp
      rw [String.toList_ofList, toList_bare]

/-- **When an address keeps all but its user information.**  It does exactly if no at sign stands
behind the host in front of the next slash, as none does where a path follows the host or nothing
does. -/
theorem stripCredentials_eq_bare_iff (address : Address) :
    stripCredentials address.text = address.bare
      ↔ '@' ∉ address.rest.toList.takeWhile (· ≠ '/') := by
  refine ⟨fun hstrip hsign => ?_, address.stripCredentials_text⟩
  obtain ⟨cut, hcut, hbefore, hshort⟩ :=
    exists_isOf_of_mem address.mark_first address.slash_not_mem_front hsign
  rw [← address.toList_text] at hcut
  have hlength := congrArg (fun text : String => text.toList.length) hstrip
  simp only [stripCredentials_of_isOf hcut, String.toList_ofList, hbefore, address.toList_bare,
    List.length_append] at hlength
  omega

/-- The value of a query is taken for a host. -/
theorem query_taken_for_host : ∃ address : Address,
    address.text = "https://example.com?user=a@b" ∧ address.bare = address.text
      ∧ stripCredentials address.text = "https://b" := by
  refine ⟨⟨"https", none, "example.com", "?user=a@b", by decide, by decide, by decide, by decide,
    by decide, by simp⟩, ?_⟩
  decide +kernel

end Log

end VirtualShell
