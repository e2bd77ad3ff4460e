import VirtualShell.Proofs.Command.Unspaced
import VirtualShell.Proofs.Effect.Safe
import VirtualShell.Proofs.Path.Behind
import VirtualShell.Proofs.Store.Listing

/-!
# What an archive lists

An archive is text, and what is in it is read back line by line.  Each operand stands for the node
that it names and all below it, in the order of their paths (`Packed`); each of these nodes has one
line, which names it and ends in a slash if it is a directory (`standsFor_memberLine`).  Since no
line is empty or broken, reading finds what has been written (`readArchive_archiveText`), also if
the archive takes the place of a file that it lists: the entries are collected before it is written.
-/

namespace VirtualShell.Command

open VirtualShell.Path (IsNormal trimmed)

variable {call : Invocation} {store : Store} {cwd operand root : String} {top node : Node}

/-! ## Lines -/

/-- The line for a node at or below the path that an operand names. -/
def memberLine (operand root : String) (node : Node) : String :=
  trimmed operand ++ (if node.path = root then "" else "/" ++ Path.below node.path root)
    ++ (if node.isDirectory then "/" else "")

/-- A text that stands for a node in a directory. -/
structure StandsFor (cwd line : String) (node : Node) : Prop where
  isLine : Text.IsLine line
  named : Path.resolve cwd line = node.path
  marked : line.toList.getLast? = some '/' ↔ node.isDirectory = true

/-- The entries of an operand are the lines of the node that it names and of all below it. -/
lemma operandEntries_eq (operand : String) (hwell : store.WellFormed)
    (hget : store.get? root = some top) :
    operandEntries store operand root top
      = (top :: store.descendants top.path).map (memberLine operand root) := by
  have hpath : top.path = root := Store.path_of_get? hget
  have htop : top ∈ store.nodes := Store.mem_of_get? hget
  subst hpath
  cases hdir : top.isDirectory with
  | false =>
      rw [hwell.descendants_eq_nil htop hdir]
      simp [operandEntries, hdir, memberLine, trimmed]
  | true =>
      have hbelow : ∀ inner ∈ store.descendants top.path,
          trimmed operand ++ "/" ++ Path.display top.path inner.path
              ++ (if inner.isDirectory then "/" else "")
            = memberLine operand top.path inner := by
        intro inner hinner
        obtain ⟨hmem, hlies⟩ := Store.mem_descendants.mp hinner
        have hne : inner.path ≠ top.path := by
          intro heq
          rw [heq, Path.isBelow_irrefl (hwell.normal top htop)] at hlies
          exact Bool.noConfusion hlies
        simp only [memberLine, if_neg hne, Path.display, if_pos hlies, String.append_assoc]
      rw [List.map_cons, ← List.map_congr_left hbelow]
      simp [operandEntries, hdir, memberLine, trimmed]

/-- What names a directory with a slash behind it stands for it. -/
lemma standsFor_append_slash {front : String} (hfront : Text.Unspaced front.toList)
    (hnamed : Path.resolve cwd (front ++ "/") = node.path) (hdir : node.isDirectory = true) :
    StandsFor cwd (front ++ "/") node := by
  have hspaced : Text.Unspaced (front ++ "/").toList := by
    rw [String.toList_append, Text.unspaced_append]
    exact ⟨hfront, by decide⟩
  have hlast : (front ++ "/").toList.getLast? = some '/' := by
    rw [String.toList_append]
    exact List.getLast?_concat
  exact ⟨Text.isLine_of_unspaced (by simp) hspaced, hnamed, iff_of_true hlast hdir⟩

/-- The line of a file at the path itself. -/
lemma memberLine_self_file (hpath : node.path = root) (hfile : node.isDirectory = false) :
    memberLine operand root node = trimmed operand := by
  simp [memberLine, hpath, hfile]

lemma memberLine_self_directory (hpath : node.path = root) (hdir : node.isDirectory = true) :
    memberLine operand root node = trimmed operand ++ "/" := by
  simp [memberLine, hpath, hdir]

lemma memberLine_below (hne : node.path ≠ root) :
    memberLine operand root node
      = trimmed operand ++ "/" ++ Path.below node.path root
        ++ if node.isDirectory then "/" else "" := by
  simp only [memberLine, if_neg hne, String.append_assoc]

/-- The line for the node that the operand names. -/
lemma standsFor_self (hoperand : operand ≠ "") (hspaced : Text.Unspaced operand.toList)
    (hroot : Path.resolve cwd operand = root) (hwell : store.WellFormed)
    (hnode : node ∈ store.nodes) (hpath : node.path = root) :
    StandsFor cwd (memberLine operand root node) node := by
  cases hdir : node.isDirectory with
  | false =>
      -- all slashes are cut off, which leaves something, because the root is a directory
      have htrimmed : trimmed operand ≠ "" := by
        intro hempty
        have hslash : node.path = "/" :=
          hpath.trans (hroot ▸ Path.resolve_of_trimmed_eq hempty hoperand cwd)
        have hrootdir := hwell.root
        rw [← hslash, Store.isDirectory, hwell.get?_of_mem hnode, Option.any_some, hdir]
          at hrootdir
        exact Bool.noConfusion hrootdir
      rw [memberLine_self_file hpath hdir]
      refine ⟨Text.isLine_of_unspaced htrimmed (Path.unspaced_trimmed hspaced), ?_, ?_⟩
      · rw [Path.resolve_trimmed htrimmed, hroot, hpath]
      · exact iff_of_false (Path.getLast?_trimmed operand) (by simp [hdir])
  | true =>
      rw [memberLine_self_directory hpath hdir]
      refine standsFor_append_slash (Path.unspaced_trimmed hspaced) ?_ hdir
      rw [Path.resolve_trimmed_slash hoperand, hroot, hpath]

/-- The line for a node below the one that the operand names. -/
lemma standsFor_below (hoperand : operand ≠ "") (hspaced : Text.Unspaced operand.toList)
    (hwell : store.WellFormed) (hstore : store.Unspaced) (hnode : node ∈ store.nodes)
    (hne : node.path ≠ Path.resolve cwd operand)
    (hbelow : Path.isBelow node.path (Path.resolve cwd operand) = true) :
    StandsFor cwd (memberLine operand (Path.resolve cwd operand) node) node := by
  have hnormal : IsNormal node.path := hwell.normal node hnode
  have hline : Text.Unspaced (trimmed operand ++ "/"
      ++ Path.below node.path (Path.resolve cwd operand)).toList :=
    Path.unspaced_behind hspaced (hstore node hnode)
  have hnamed := Path.resolve_behind hoperand hnormal hbelow
  rw [memberLine_below hne]
  cases hdir : node.isDirectory with
  | false =>
      have hlast := Path.getLast?_behind hnormal (Path.isNormal_resolve cwd operand) hbelow
        (trimmed operand)
      simp only [Bool.false_eq_true, if_false, String.append_empty]
      exact ⟨Text.isLine_of_unspaced (by simp) hline, hnamed, iff_of_false hlast (by simp [hdir])⟩
  | true =>
      rw [if_pos rfl]
      refine standsFor_append_slash hline ?_ hdir
      rw [Path.resolve_append_slash (by simp), hnamed]

/-- **The line for a node stands for it**, however the operand was spelled. -/
theorem standsFor_memberLine (hoperand : operand ≠ "") (hspaced : Text.Unspaced operand.toList)
    (hwell : store.WellFormed) (hstore : store.Unspaced) (hnode : node ∈ store.nodes)
    (hat : node.path = Path.resolve cwd operand
      ∨ Path.isBelow node.path (Path.resolve cwd operand) = true) :
    StandsFor cwd (memberLine operand (Path.resolve cwd operand) node) node := by
  by_cases hpath : node.path = Path.resolve cwd operand
  · exact standsFor_self hoperand hspaced rfl hwell hnode hpath
  · exact standsFor_below hoperand hspaced hwell hstore hnode hpath (hat.resolve_left hpath)

/-! ## Entries -/

/-- What an archive lists for one operand: lines, each with the node that it stands for. -/
structure Packed (store : Store) (cwd operand : String) (members : List (String × Node)) :
    Prop where
  /-- The node that the operand names comes first, then all below it. -/
  nodes : ∃ top, store.get? (Path.resolve cwd operand) = some top
    ∧ members.map Prod.snd = top :: store.descendants top.path
  complete : ∀ node, node ∈ members.map Prod.snd ↔ node ∈ store.nodes
    ∧ (node.path = Path.resolve cwd operand
      ∨ Path.isBelow node.path (Path.resolve cwd operand) = true)
  byPath : (members.map Prod.snd).Pairwise fun a b =>
    Text.bytesOf a.path < Text.bytesOf b.path
  written : ∀ member ∈ members,
    member.1 = memberLine operand (Path.resolve cwd operand) member.2
  standsFor : ∀ member ∈ members, StandsFor cwd member.1 member.2

lemma packed_of_get? (hoperand : operand ≠ "") (hspaced : Text.Unspaced operand.toList)
    (hwell : store.WellFormed) (hstore : store.Unspaced)
    (hget : store.get? (Path.resolve cwd operand) = some top) :
    Packed store cwd operand ((top :: store.descendants top.path).map fun node =>
      (memberLine operand (Path.resolve cwd operand) node, node)) := by
  have htop : top ∈ store.nodes := Store.mem_of_get? hget
  have hpath : top.path = Path.resolve cwd operand := Store.path_of_get? hget
  have hnodes : ((top :: store.descendants top.path).map fun node =>
      (memberLine operand (Path.resolve cwd operand) node, node)).map Prod.snd
      = top :: store.descendants top.path := by simp [Function.comp_def]
  constructor
  case nodes => exact ⟨top, hget, hnodes⟩
  case complete =>
    intro node
    rw [hnodes, hwell.mem_cons_descendants htop, hpath]
  case byPath =>
    rw [hnodes]
    exact (hwell.cons_descendants_increasing htop).imp Text.bytesOf_lt_iff.mpr
  case written => exact List.forall_mem_map.mpr fun _ _ => rfl
  case standsFor =>
    refine List.forall_mem_map.mpr fun node hnode => ?_
    obtain ⟨hmem, hat⟩ := (hwell.mem_cons_descendants htop).mp hnode
    exact standsFor_memberLine hoperand hspaced hwell hstore hmem (hpath ▸ hat)

/-- The lines of the members of all operands. -/
def linesIn (groups : List (List (String × Node))) : List String := groups.flatten.map Prod.fst

/-- Entries are collected operand by operand; by induction on the operands. -/
lemma packed_of_archiveEntries {operands lines : List String}
    (hoperands : ∀ operand ∈ operands, operand ≠ "" ∧ Text.Unspaced operand.toList)
    (hwell : store.WellFormed) (hstore : store.Unspaced)
    (h : archiveEntries call store operands = .ok lines) :
    ∃ groups, List.Forall₂ (Packed store call.cwd) operands groups ∧ lines = linesIn groups := by
  induction operands generalizing lines with
  | nil => exact ⟨[], .nil, (Except.ok.inj h).symm⟩
  | cons operand rest ih =>
      rw [List.forall_mem_cons] at hoperands
      obtain ⟨⟨hne, hspaced⟩, hrest⟩ := hoperands
      simp only [archiveEntries] at h
      cases hget : store.get? (call.resolve operand) with
      | none => simp [hget] at h
      | some top =>
          cases hmore : archiveEntries call store rest with
          | error missing => simp [hget, hmore, bind, Except.bind] at h
          | ok more =>
              obtain ⟨groups, hgroups, rfl⟩ := ih hrest hmore
              have hpacked := packed_of_get? hne hspaced hwell hstore hget
              refine ⟨_ :: groups, .cons hpacked hgroups, ?_⟩
              simp only [hget, hmore, bind, Except.bind, pure, Except.pure, Except.ok.injEq] at h
              rw [← h, operandEntries_eq operand hwell hget, linesIn, linesIn, List.flatten_cons,
                List.map_append, List.map_map]
              rfl

lemma isLine_of_mem_linesIn {operands : List String} {groups : List (List (String × Node))}
    (hgroups : List.Forall₂ (Packed store cwd) operands groups) :
    ∀ line ∈ linesIn groups, Text.IsLine line := by
  induction hgroups with
  | nil => simp [linesIn]
  | cons hpacked _ ih =>
      intro line hline
      rw [linesIn, List.flatten_cons, List.map_append, List.mem_append] at hline
      rcases hline with hfirst | hrest
      · obtain ⟨member, hmember, rfl⟩ := List.mem_map.mp hfirst
        exact (hpacked.standsFor member hmember).isLine
      · exact ih line hrest

/-! ## Archives -/

/-- **Reading an archive gives what has been written.** -/
theorem readArchive_archiveText {lines : List String} (h : ∀ line ∈ lines, Text.IsLine line) :
    readArchive (archiveText lines) = lines := by
  have hall : ∀ line ∈ archiveHeader :: lines, Text.IsLine line :=
    List.forall_mem_cons.mpr ⟨by decide, h⟩
  rw [readArchive, archiveText, Text.linesOf_intercalate hall]
  exact if_pos rfl

/-- A tool that writes one file prints what its script says and leaves the file, if it succeeds. -/
lemma run_file {plan : Invocation → Store → Plan × List Log.Event} {script : ToolScript}
    {path content : String} (name : String) (draws : Draws)
    (hscript : script? (.tool plan) call store = some script)
    (heffects : script.effects = [.file path content]) (hnormal : IsNormal path)
    (hsuccess : (((Command.tool plan).run call store draws).verdict.toReply name).success = true) :
    ((Command.tool plan).run call store draws).verdict = .ok script.output
      ∧ fileText? ((Command.tool plan).run call store draws).store path = some content := by
  obtain ⟨reply, hperform, hverdict⟩ := exists_reply_of_success hscript hsuccess
  obtain ⟨rfl, node, hnode, hbody⟩ := ToolScript.perform_file heffects hnormal hperform
  refine ⟨hverdict, ?_⟩
  rw [run_tool_store, hscript, Option.map_some, Option.getD_some, fileText?, hnode,
    Option.bind_some, hbody]
  rfl

/-! ## Tar -/

variable {draws : Draws} {mode archive : String} {operands lines : List String}

/-- Hyphens before the letters of a mode do not count. -/
lemma contains_letters {c : Char} (hc : c ≠ '-') (mode : String) :
    (Text.trimStartMatches (· = '-') mode).toList.contains c = decide (c ∈ mode.toList) := by
  have hparts := List.takeWhile_append_dropWhile (p := (· = '-')) (l := mode.toList)
  have hfront : c ∉ mode.toList.takeWhile (· = '-') := fun hin =>
    hc (by simpa using List.mem_takeWhile_imp hin)
  rw [Text.trimStartMatches, String.toList_ofList, Bool.eq_iff_iff, List.contains_iff_mem,
    decide_eq_true_iff]
  conv_rhs => rw [← hparts, List.mem_append]
  exact (or_iff_right hfront).symm

/-- What `tar` does goes by the letters of its mode. -/
lemma exists_tar_plan : ∃ plan, tar = .tool plan
    ∧ ∀ call store mode archive operands, call.args = mode :: archive :: operands →
      ('c' ∈ mode.toList → plan call store
        = (tarCreate call store (decide ('v' ∈ mode.toList)) archive operands, []))
      ∧ ('c' ∉ mode.toList → 't' ∈ mode.toList →
        plan call store = (tarRead call store true archive, [])) := by
  refine ⟨_, rfl, fun call store mode archive operands hargs => ⟨fun hc => ?_, fun hc ht => ?_⟩⟩
  · simp only [hargs, contains_letters (by decide : 'c' ≠ '-'),
      contains_letters (by decide : 'v' ≠ '-'), hc, decide_true, if_true]
  · simp only [hargs, contains_letters (by decide : 'c' ≠ '-'),
      contains_letters (by decide : 't' ≠ '-'), hc, ht, decide_true, decide_false, Bool.or_true,
      Bool.false_eq_true, if_false, if_true]

lemma tarCreate_cases (call : Invocation) (store : Store) (verbose : Bool) (archive : String)
    (operands : List String) :
    (∃ complaint, tarCreate call store verbose archive operands = .failed complaint)
      ∨ ∃ script lines, tarCreate call store verbose archive operands = .perform script
        ∧ archiveEntries call store operands = .ok lines
        ∧ script.output = (if verbose then "\n".intercalate lines else "")
        ∧ script.effects = [.file (call.resolve archive) (archiveText lines)] := by
  rw [tarCreate]
  split
  · exact Or.inl ⟨_, rfl⟩
  · cases archiveEntries call store operands with
    | error operand => exact Or.inl ⟨_, rfl⟩
    | ok lines => exact Or.inr ⟨_, lines, rfl, rfl, rfl, rfl⟩

/-- **What `tar` puts into an archive.**  If it succeeds, it prints the lines of all operands and
leaves an archive of the same lines. -/
theorem tar_created (name : String) (draws : Draws) (hcall : call.Unspaced)
    (hwords : ∀ arg ∈ call.args, arg ≠ "") (hwell : store.WellFormed) (hstore : store.Unspaced)
    (hargs : call.args = mode :: archive :: operands) (hc : 'c' ∈ mode.toList)
    (hv : 'v' ∈ mode.toList)
    (hsuccess : ((tar.run call store draws).verdict.toReply name).success = true) :
    ∃ groups, List.Forall₂ (Packed store call.cwd) operands groups
      ∧ (tar.run call store draws).verdict = .ok ("\n".intercalate (linesIn groups))
      ∧ fileText? (tar.run call store draws).store (call.resolve archive)
        = some (archiveText (linesIn groups)) := by
  obtain ⟨plan, htar, hplan⟩ := exists_tar_plan
  have hcreate : plan call store = (tarCreate call store true archive operands, []) := by
    rw [(hplan call store mode archive operands hargs).1 hc, decide_eq_true hv]
  rw [htar] at hsuccess ⊢
  rcases tarCreate_cases call store true archive operands with
    ⟨complaint, hfailed⟩ | ⟨script, lines, hscript, hentries, houtput, heffects⟩
  · rw [hfailed] at hcreate
    simp only [run, hcreate, Plan.failed] at hsuccess
    exact Bool.noConfusion hsuccess
  · have hoperands : ∀ operand ∈ operands, operand ≠ "" ∧ Text.Unspaced operand.toList := by
      intro operand hoperand
      have hin : operand ∈ call.args := by simp [hargs, hoperand]
      exact ⟨hwords operand hin, hcall.args operand hin⟩
    obtain ⟨groups, hgroups, rfl⟩ := packed_of_archiveEntries hoperands hwell hstore hentries
    have hplanned : script? (.tool plan) call store = some script := by
      simp [script?, hcreate, hscript, planned?]
    obtain ⟨hverdict, htext⟩ :=
      run_file name draws hplanned heffects (Path.isNormal_resolve _ _) hsuccess
    exact ⟨groups, hgroups, by rw [hverdict, houtput]; rfl, htext⟩

/-- **What `tar` lists.**  An archive that is there is listed line by line. -/
theorem tar_listed (draws : Draws) (hargs : call.args = mode :: archive :: operands)
    (hc : 'c' ∉ mode.toList) (ht : 't' ∈ mode.toList)
    (htext : fileText? store (call.resolve archive) = some (archiveText lines))
    (hlines : ∀ line ∈ lines, Text.IsLine line) :
    (tar.run call store draws).verdict = .ok ("\n".intercalate lines)
      ∧ (tar.run call store draws).store = store := by
  obtain ⟨plan, htar, hplan⟩ := exists_tar_plan
  have hread : plan call store = (.ok ("\n".intercalate lines), []) := by
    rw [(hplan call store mode archive operands hargs).2 hc ht, tarRead, htext]
    simp only [if_true, readArchive_archiveText hlines]
  rw [htar]
  simp only [run, hread, Plan.ok, and_self]

/-! ## Zip -/

variable {files : List String} {name text : String}

/-- How an entry is reported that is put into an archive. -/
def addedLine (entry : String) : String := "  adding: " ++ entry ++ " (stored 0%)"

/-- The first operand of `zip` names the archive, and the others what goes into it. -/
lemma exists_zip_plan (store : Store)
    (hoperands : (call.args.filter fun arg => !Text.startsWith "-" arg) = archive :: files) :
    ∃ plan, zip = .tool plan
      ∧ ((∃ complaint, plan call store = (.failed complaint, []))
        ∨ ∃ script lines, plan call store = (.perform script, [])
          ∧ archiveEntries call store files = .ok lines
          ∧ script.output = "\n".intercalate (lines.map addedLine)
          ∧ script.effects = [.file (call.resolve (zipName archive)) (archiveText lines)]) := by
  refine ⟨_, rfl, ?_⟩
  rw [hoperands]
  cases files with
  | nil => exact Or.inl ⟨_, rfl⟩
  | cons file rest =>
      simp only [zipCreate]
      cases archiveEntries call store (file :: rest) with
      | error operand => exact Or.inl ⟨_, rfl⟩
      | ok lines => exact Or.inr ⟨_, lines, rfl, rfl, rfl, rfl⟩

/-- **What `zip` puts into an archive.**  If it succeeds, it reports the entries of all operands and
leaves an archive of the same entries, under a name that has its ending. -/
theorem zip_created (reported : String) (draws : Draws) (hcall : call.Unspaced)
    (hwords : ∀ arg ∈ call.args, arg ≠ "") (hwell : store.WellFormed) (hstore : store.Unspaced)
    (hoperands : (call.args.filter fun arg => !Text.startsWith "-" arg) = archive :: files)
    (hsuccess : ((zip.run call store draws).verdict.toReply reported).success = true) :
    ∃ groups, List.Forall₂ (Packed store call.cwd) files groups
      ∧ (zip.run call store draws).verdict
        = .ok ("\n".intercalate ((linesIn groups).map addedLine))
      ∧ fileText? (zip.run call store draws).store (call.resolve (zipName archive))
        = some (archiveText (linesIn groups)) := by
  obtain ⟨plan, hzip, ⟨complaint, hplan⟩ | ⟨script, lines, hplan, hentries, houtput, heffects⟩⟩ :=
    exists_zip_plan store hoperands
  · rw [hzip] at hsuccess
    simp only [run, hplan, Plan.failed] at hsuccess
    exact Bool.noConfusion hsuccess
  · rw [hzip] at hsuccess ⊢
    have hfiles : ∀ file ∈ files, file ≠ "" ∧ Text.Unspaced file.toList := by
      intro file hfile
      have hin : file ∈ call.args :=
        (List.mem_filter.mp (hoperands ▸ List.mem_cons_of_mem archive hfile)).1
      exact ⟨hwords file hin, hcall.args file hin⟩
    obtain ⟨groups, hgroups, rfl⟩ := packed_of_archiveEntries hfiles hwell hstore hentries
    have hscript : script? (.tool plan) call store = some script := by
      simp [script?, hplan, planned?]
    obtain ⟨hverdict, htext⟩ :=
      run_file reported draws hscript heffects (Path.isNormal_resolve _ _) hsuccess
    exact ⟨groups, hgroups, by rw [hverdict, houtput], htext⟩

/-- The file that an operand of `unzip` leads to: one of that name, or else one of that name with
its ending. -/
structure Opens (store : Store) (cwd archive name text : String) : Prop where
  file : fileText? store (Path.resolve cwd name) = some text
  chosen : name = archive
    ∨ name = archive ++ ".zip" ∧ fileText? store (Path.resolve cwd archive) = none

/-- **What `unzip` reports** are the entries of the file that it opens. -/
theorem unzip_opened (draws : Draws)
    (harchive : (call.args.find? fun arg => !Text.startsWith "-" arg) = some archive)
    (hopens : Opens store call.cwd archive name text) :
    (unzip.run call store draws).verdict
        = .ok ("\n".intercalate (("Archive:  " ++ name) :: (readArchive text).map unzipLine)) := by
  obtain ⟨hfile, hchosen⟩ := hopens
  have hfound : ([archive, archive ++ ".zip"].findSome? fun name =>
      (fileText? store (call.resolve name)).map fun text => (name, text)) = some (name, text) := by
    rcases hchosen with rfl | ⟨rfl, hnone⟩
    · have hfirst : fileText? store (call.resolve name) = some text := hfile
      simp only [List.findSome?_cons, hfirst, Option.map_some]
    · have hfirst : fileText? store (call.resolve archive) = none := hnone
      have hsecond : fileText? store (call.resolve (archive ++ ".zip")) = some text := hfile
      simp only [List.findSome?_cons, hfirst, hsecond, Option.map_none, Option.map_some]
  simp only [unzip, run, harchive, hfound]

/-- A name that has its ending is not given another. -/
lemma zipName_of_endsWith (h : Text.endsWith ".zip" archive = true) : zipName archive = archive :=
  if_pos h

lemma zipName_of_not_endsWith (h : Text.endsWith ".zip" archive = false) :
    zipName archive = archive ++ ".zip" := by
  rw [zipName, h]
  rfl

/-- What has been packed is opened, if its name was given whole or names no file as it was given. -/
lemma opens_zipName (hfile : fileText? store (Path.resolve cwd (zipName archive)) = some text)
    (hfree : Text.endsWith ".zip" archive = true
      ∨ fileText? store (Path.resolve cwd archive) = none) :
    Opens store cwd archive (zipName archive) text := by
  cases hends : Text.endsWith ".zip" archive with
  | true => exact ⟨hfile, Or.inl (zipName_of_endsWith hends)⟩
  | false =>
      exact ⟨hfile, Or.inr ⟨zipName_of_not_endsWith hends, hfree.resolve_left (by simp [hends])⟩⟩

end VirtualShell.Command
