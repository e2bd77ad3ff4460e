import VirtualShell.Text.Pieces

/-!
# Permissions and modes

Permissions are shown as ten characters: the kind of node, then read, write and execute for the
user, the group and all others.  They are a display and forbid nothing.

A *mode* says how they change.  It is read once, apart from any node, and then applied; whether a
mode is accepted therefore cannot depend on what it is applied to.

* octal: one to four digits, of which the last three set all nine bits;
* literal: nine characters, each a hyphen or the letter of its place;
* symbolic: clauses between commas, each with whom it concerns, a sign, and the rights.
-/

namespace VirtualShell

/-- What one class of users may do. -/
structure Rights where
  read : Bool
  write : Bool
  execute : Bool
  deriving DecidableEq, Repr

/-- What the three classes of users may do. -/
structure Permissions where
  user : Rights
  group : Rights
  other : Rights
  deriving DecidableEq, Repr

namespace Permissions

/-- The permissions that a text shows; whatever is not a hyphen is a right. -/
def ofText (text : String) : Permissions :=
  let mark (place : Nat) : Bool := text.toList.getD (place + 1) '-' ≠ '-'
  ⟨⟨mark 0, mark 1, mark 2⟩, ⟨mark 3, mark 4, mark 5⟩, ⟨mark 6, mark 7, mark 8⟩⟩

/-- The three characters of one class. -/
def rightsText (rights : Rights) : List Char :=
  [if rights.read then 'r' else '-',
   if rights.write then 'w' else '-',
   if rights.execute then 'x' else '-']

/-- The ten characters for a directory or a file. -/
def text (permissions : Permissions) (isDirectory : Bool) : String :=
  String.ofList ((if isDirectory then 'd' else '-') :: (rightsText permissions.user
    ++ rightsText permissions.group ++ rightsText permissions.other))

end Permissions

/-! ## Modes -/

/-- A class of users. -/
inductive UserClass where
  | user
  | group
  | other
  deriving DecidableEq, Repr

/-- One of the three rights. -/
inductive Right where
  | read
  | write
  | execute
  deriving DecidableEq, Repr

/-- What a clause does with the rights it names. -/
inductive ClauseSign where
  | add
  | remove
  | assign
  deriving DecidableEq, Repr

/-- A clause of a symbolic mode. -/
structure Clause where
  classes : List UserClass
  sign : ClauseSign
  rights : List Right
  deriving DecidableEq, Repr

/-- A change of permissions. -/
inductive Mode where
  /-- All nine bits are given. -/
  | replace (permissions : Permissions)
  /-- Clauses, worked off from left to right. -/
  | amend (clauses : List Clause)
  deriving DecidableEq, Repr

/-! ## Applying a mode -/

namespace Rights

/-- Sets one right. -/
def set (rights : Rights) (value : Bool) : Right → Rights
  | .read => { rights with read := value }
  | .write => { rights with write := value }
  | .execute => { rights with execute := value }

/-- Applies a clause to the rights of one class. -/
def amend (rights : Rights) (sign : ClauseSign) (named : List Right) : Rights :=
  let start := if sign = .assign then ⟨false, false, false⟩ else rights
  named.foldl (fun rights right => rights.set (sign ≠ .remove) right) start

end Rights

namespace Permissions

/-- Applies a clause to one of the classes it concerns. -/
def amendClass (permissions : Permissions) (clause : Clause) : UserClass → Permissions
  | .user => { permissions with user := permissions.user.amend clause.sign clause.rights }
  | .group => { permissions with group := permissions.group.amend clause.sign clause.rights }
  | .other => { permissions with other := permissions.other.amend clause.sign clause.rights }

/-- Applies a clause to all the classes it concerns. -/
def amend (permissions : Permissions) (clause : Clause) : Permissions :=
  clause.classes.foldl (fun permissions cls => permissions.amendClass clause cls) permissions

end Permissions

/-- The permissions after a mode. -/
def Mode.apply (mode : Mode) (permissions : Permissions) : Permissions :=
  match mode with
  | replace permissions => permissions
  | amend clauses => clauses.foldl Permissions.amend permissions

/-! ## Reading a mode -/

namespace Mode

/-- The rights that an octal digit stands for. -/
def octalRights (digit : Nat) : Rights := ⟨digit / 4 % 2 = 1, digit / 2 % 2 = 1, digit % 2 = 1⟩

/-- The value of an octal digit. -/
def octalDigit? (c : Char) : Option Nat :=
  if '0' ≤ c && c ≤ '7' then some (c.toNat - '0'.toNat) else none

/-- An octal mode: of up to four digits the last three count, and missing ones are zero. -/
def octal? (mode : List Char) : Option Mode :=
  if mode.isEmpty || 4 < mode.length then none
  else
    (mode.mapM octalDigit?).map fun digits =>
      let place (n : Nat) : Rights := octalRights (digits.reverse.getD n 0)
      .replace ⟨place 2, place 1, place 0⟩

/-- A literal mode: nine characters, each a hyphen or the letter of its place. -/
def literal? (mode : List Char) : Option Mode :=
  let fits (place : Char × Char) : Bool := place.1 = '-' || place.1 = place.2
  if mode.length = 9 && (mode.zip "rwxrwxrwx".toList).all fits then
    some (.replace (.ofText (String.ofList ('-' :: mode))))
  else none

/-- The right that a letter names. -/
def right? : Char → Option Right
  | 'r' => some .read
  | 'w' => some .write
  | 'x' => some .execute
  | _ => none

/-- The class that a letter names. -/
def class? : Char → Option UserClass
  | 'u' => some .user
  | 'g' => some .group
  | 'o' => some .other
  | _ => none

/-- The sign that a character stands for. -/
def sign? : Char → Option ClauseSign
  | '+' => some .add
  | '-' => some .remove
  | '=' => some .assign
  | _ => none

/-- The classes that the letters before a sign name: all of them if there is no letter, or if `a`
is among them. -/
def classes? (letters : List Char) : Option (List UserClass) :=
  if letters.isEmpty || letters.contains 'a' then some [.user, .group, .other]
  else letters.mapM class?

/-- A clause of a symbolic mode. -/
def clause? (clause : List Char) : Option Clause :=
  let whom := clause.takeWhile fun c => (sign? c).isNone
  match clause.dropWhile fun c => (sign? c).isNone with
  | [] => none
  | c :: letters => do
    let sign ← sign? c
    let rights ← letters.mapM right?
    let classes ← classes? whom
    return ⟨classes, sign, rights⟩

/-- A symbolic mode: clauses between commas. -/
def symbolic? (mode : List Char) : Option Mode :=
  ((Text.pieces ',' mode).mapM clause?).map .amend

/-- Reads a mode. -/
def parse? (mode : String) : Option Mode :=
  octal? mode.toList <|> literal? mode.toList <|> symbolic? mode.toList

end Mode

/-- The permissions text after a mode, if the mode is one. -/
def changedPermissions? (current : String) (isDirectory : Bool) (mode : String) : Option String :=
  (Mode.parse? mode).map fun mode => (mode.apply (.ofText current)).text isDirectory

end VirtualShell
