import Mathlib.Data.List.TakeWhile
import VirtualShell.Command.Archive
import VirtualShell.Command.Content
import VirtualShell.Proofs.Command.Unspaced
import VirtualShell.Shell.Interpreter

/-!
# What `echo` writes and `cat` reads

The words of an `echo` are read three times: for options at their beginning, for a redirection at
their end, and for the text between.  A redirection begins with `>`, which no option does, so the
options of words with a redirection behind them are the options of the words
(`echoOptions_append`), and the text is what is printed when there is none (`printed`).

What is written is the text of the file from then on, or nothing is written at all
(`echoInto_cases`); and `cat` shows what the text of a file is (`run_cat`).
-/

namespace VirtualShell.Command

variable {call : Invocation} {store : Store} {file text word : String} {words tail : List String}
  {into : String → Destination}

/-! ## The words of an `echo` -/

/-- A word that is no redirection. -/
def Plain (word : String) : Prop := word.toList.head? ≠ some '>'

instance (word : String) : Decidable (Plain word) :=
  inferInstanceAs (Decidable (word.toList.head? ≠ some '>'))

/-- What `echo` prints. -/
def printed (words : List String) : String :=
  echoText (echoOptions words).1 (echoOptions words).2

/-- The words that send a text into a file: the file stands behind the redirection or is attached to
it.  A file that begins with `>` cannot be attached to `>`. -/
inductive Sends (file : String) : (String → Destination) → List String → Prop where
  | overwrite : Sends file .overwrite [">", file]
  | overwriteAttached (named : file ≠ "") (plain : Plain file) :
      Sends file .overwrite [">" ++ file]
  | append : Sends file .append [">>", file]
  | appendAttached (named : file ≠ "") : Sends file .append [">>" ++ file]

lemma redirection?_eq_none (h : Plain word) : redirection? word = none := by
  rw [Plain] at h
  simp only [redirection?]
  split
  · rename_i heq
    simp [heq] at h
  · rename_i heq
    simp [heq] at h
  · rfl

lemma unquoted_of_not_mem (h : '"' ∉ file.toList) : unquoted file = file := by
  have hdrop : ∀ text : List Char, '"' ∉ text → text.dropWhile (· = '"') = text := by
    intro text htext
    rw [List.dropWhile_eq_self_iff]
    intro hlength hquote
    have hmem := List.getElem_mem hlength
    rw [of_decide_eq_true hquote] at hmem
    exact htext hmem
  have hback : '"' ∉ file.toList.reverse := by rwa [List.mem_reverse]
  rw [unquoted, Text.trimMatches, Text.trimBoth, hdrop _ h, hdrop _ hback, List.reverse_reverse,
    String.ofList_toList]

/-- A redirection is read as what it sends to. -/
lemma splitRedirection_of_sends (htail : Sends file into tail) (hfile : '"' ∉ file.toList) :
    splitRedirection tail = .ok ([], into file) := by
  have hsame : unquoted file = file := unquoted_of_not_mem hfile
  cases htail with
  | overwrite => simp [splitRedirection, redirection?, hsame]
  | overwriteAttached named plain =>
      have hinto : redirection? (">" ++ file) = some (.overwrite, file) := by
        obtain ⟨first, rest, hchars⟩ : ∃ first rest, file.toList = first :: rest :=
          List.exists_cons_of_ne_nil (by simpa using named)
        have hfirst : first ≠ '>' := by simpa [Plain, hchars] using plain
        have hword : (">" ++ file).toList = '>' :: first :: rest := by simp [hchars]
        have hsplit : String.ofList (first :: rest) = file := by rw [← hchars, String.ofList_toList]
        simp [redirection?, hword, hfirst, hsplit]
      simp [splitRedirection, hinto, hsame, named]
  | append => simp [splitRedirection, redirection?, hsame]
  | appendAttached named => simp [splitRedirection, redirection?, hsame, named]

lemma splitRedirection_append {destination : Destination} (hwords : ∀ word ∈ words, Plain word)
    (htail : splitRedirection tail = .ok ([], destination)) :
    splitRedirection (words ++ tail) = .ok (words, destination) := by
  induction words with
  | nil => exact htail
  | cons word rest ih =>
      rw [List.forall_mem_cons] at hwords
      rw [List.cons_append, splitRedirection, redirection?_eq_none hwords.1]
      simp only [ih hwords.2]
      rfl

lemma echoOptions_cons_of_ne {rest : List String} (he : word ≠ "-e") (hn : word ≠ "-n")
    (hE : word ≠ "-E") : echoOptions (word :: rest) = (false, word :: rest) := by
  rw [echoOptions] <;> simp [he, hn, hE]

/-- No redirection is an option. -/
lemma echoOptions_of_sends (htail : Sends file into tail) : echoOptions tail = (false, tail) := by
  obtain ⟨mark, rest, rfl, hmark⟩ : ∃ mark rest, tail = mark :: rest
      ∧ mark.toList.head? = some '>' := by
    cases htail <;> exact ⟨_, _, rfl, by simp⟩
  have hne : ∀ option : String, option.toList.head? ≠ some '>' → mark ≠ option := by
    rintro option hoption rfl
    exact hoption hmark
  exact echoOptions_cons_of_ne (hne _ (by decide)) (hne _ (by decide)) (hne _ (by decide))

lemma echoOptions_append (htail : echoOptions tail = (false, tail)) :
    echoOptions (words ++ tail) = ((echoOptions words).1, (echoOptions words).2 ++ tail) := by
  fun_induction echoOptions words with
  | case1 rest ih => simp [echoOptions, ih]
  | case2 rest ih => simp [echoOptions, ih]
  | case3 rest ih => simp [echoOptions, ih]
  | case4 words he hn hE =>
      -- the options end before the first other word, or before what follows the words
      cases words with
      | nil => exact htail
      | cons word rest =>
          refine echoOptions_cons_of_ne ?_ ?_ ?_ <;> rintro rfl
          · exact he rest rfl
          · exact hn rest rfl
          · exact hE rest rfl

lemma plain_of_echoOptions (hwords : ∀ word ∈ words, Plain word) :
    ∀ word ∈ (echoOptions words).2, Plain word :=
  fun word hword => hwords word (echoOptions_subset words hword)

/-! ## The text of a file -/

lemma fileText?_eq_some_iff {path : String} :
    fileText? store path = some text
      ↔ ∃ node, store.get? path = some node ∧ node.body = .file text := by
  simp only [fileText?, Option.bind_eq_some_iff]
  refine exists_congr fun node => and_congr_right fun _ => ?_
  cases node.body <;> simp [Body.content?]

/-- A text appended to one that is not empty stands behind a line feed. -/
lemma appended_of_fileText? {path before : String} (hthere : fileText? store path = some before)
    (hbefore : before ≠ "") : appended store path text = before ++ "\n" ++ text := by
  obtain ⟨node, hget, hbody⟩ := fileText?_eq_some_iff.mp hthere
  have htext : node.text = before := by simp [Node.text, hbody, Body.content?]
  simp [appended, hget, htext, hbefore]

/-! ## Printing and writing -/

/-- Without a redirection, `echo` prints. -/
lemma run_echo_screen (draws : Draws) (hargs : call.args = words)
    (hwords : ∀ word ∈ words, Plain word) :
    echo.run call store draws = ⟨.ok (printed words), call.session, store, draws, []⟩ := by
  have hsplit : splitRedirection (echoOptions words).2 = .ok ((echoOptions words).2, .screen) := by
    have happend : splitRedirection ((echoOptions words).2 ++ []) = .ok (_, .screen) :=
      splitRedirection_append (plain_of_echoOptions hwords) rfl
    rwa [List.append_nil] at happend
  simp [echo, run, hargs, hsplit, printed]

/-- The text that stands in a file when another is sent into it. -/
def written (store : Store) (path text : String) : Destination → String
  | .append _ => appended store path text
  | _ => text

/-- With one, it writes what it would have printed. -/
lemma run_echo_sends (draws : Draws) (hargs : call.args = words ++ tail)
    (hwords : ∀ word ∈ words, Plain word) (hfile : '"' ∉ file.toList)
    (htail : Sends file into tail) :
    echo.run call store draws
      = ⟨(echoInto call store file
            (written store (call.resolve file) (printed words) (into file))).1, call.session,
          (echoInto call store file
            (written store (call.resolve file) (printed words) (into file))).2, draws, []⟩ := by
  have hoptions : echoOptions (words ++ tail) = _ :=
    echoOptions_append (echoOptions_of_sends htail)
  have hsplit := splitRedirection_append (plain_of_echoOptions hwords)
    (splitRedirection_of_sends htail hfile)
  -- the spelling decides which way of writing it is, and nothing else
  cases htail <;> simp [echo, run, hargs, hoptions, hsplit, printed, written]

/-- What is written is the text of the file from then on, or else nothing has changed. -/
lemma echoInto_cases (call : Invocation) (store : Store) (file text : String) :
    (∃ after, echoInto call store file text = (.ok "", after)
        ∧ fileText? after (call.resolve file) = some text)
      ∨ ∃ complaint, echoInto call store file text = (.failed complaint, store) := by
  rw [echoInto]
  cases hupsert : store.upsert (.file (call.resolve file) text) call.now with
  | error failure => exact Or.inr ⟨_, rfl⟩
  | ok made =>
      refine Or.inl ⟨made.2, rfl, ?_⟩
      obtain ⟨hthere, hbody, -⟩ := Store.get?_upsert hupsert
      have hpath : (Draft.file (call.resolve file) text).path = call.resolve file :=
        Path.isNormal_resolve call.cwd file
      rw [hpath] at hthere
      exact fileText?_eq_some_iff.mpr ⟨made.1, hthere, hbody⟩

lemma flagLetters?_eq_none (h : word.toList.head? ≠ some '-') : flagLetters? word = none := by
  simp only [flagLetters?]
  split
  · rfl
  · rename_i heq
    simp [heq] at h
  · rfl

/-- `cat` shows the text of a file. -/
lemma run_cat (draws : Draws) (hargs : call.args = [file])
    (hfile : file.toList.head? ≠ some '-')
    (htext : fileText? store (call.resolve file) = some text) :
    cat.run call store draws = ⟨.ok text, call.session, store, draws, []⟩ := by
  obtain ⟨node, hget, hbody⟩ := fileText?_eq_some_iff.mp htext
  have hflags : flagsOr call "n" = .ok ⟨[], [file]⟩ := by
    simp [flagsOr, hargs, splitFlags, flagLetters?_eq_none hfile]
  have hshown : node.text = text := by simp [Node.text, hbody, Body.content?]
  have hisfile : node.isDirectory = false := by
    simp [Node.isDirectory, Node.kind, hbody, Body.kind]
  have hread : catFiles call store [file] = .ok text := by
    simp [catFiles, hget, hisfile, hshown]
  simp [cat, run, hflags, hread, bind, Except.bind, pure, Except.pure, Verdict.ofExcept]

end VirtualShell.Command
