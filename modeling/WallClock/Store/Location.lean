import WallClock.Files.Path
import WallClock.Text.Hex

/-!
Where a database is opened, and how. A text that begins with `file:` is read as a location: a path,
and after a question mark options, which are separated by ampersands. A percent sign with two
hexadecimal digits stands for a byte in any of these, and a number sign ends the location. All other
texts are paths as they stand.
-/

namespace WallClock.Store

/-- What a database is opened for. -/
inductive Location.Mode where
  | readOnly
  | readWrite
  /-- The file is made if it is not there. -/
  | create
  /-- No file is used. -/
  | memory
deriving DecidableEq, Repr

/-- How those who use a database at the same time keep out of each other's way. -/
inductive Location.Locking where
  | shared
  /-- One has the database for itself as long as it is open. -/
  | exclusive
  /-- Who uses the database puts a directory beside it. -/
  | lockDirectory
  | absent
  /-- There is nobody else, as the database is not kept in a file. -/
  | memory
deriving DecidableEq, Repr

/-- Where a database is opened, and how. -/
structure Location where
  /-- The path, in bytes. -/
  path : List UInt8
  mode : Location.Mode := .create
  locking : Location.Locking := .shared
  /-- Whether the file is said never to change. -/
  isFixed : Bool := false
  /-- Whether it is to be used without locks. -/
  isUnlocked : Bool := false
  /-- The path of a file that a new one is to be like. -/
  likeFile : Option (List UInt8) := none
deriving DecidableEq, Repr

namespace Location

/-! ### Options -/

/-- An option and its value, in bytes. -/
abbrev Setting := List UInt8 × List UInt8

/-- Resolves the escapes of a text. It ends before an escape for the byte zero. -/
def unescaped : List Char → List UInt8
  | [] => []
  | '%' :: a :: b :: s =>
      match Text.hexValue? a, Text.hexValue? b with
      | some high, some low =>
          if high = 0 ∧ low = 0 then [] else UInt8.ofNat (high * 16 + low) :: unescaped s
      | _, _ => Text.bytes ['%'] ++ unescaped (a :: b :: s)
  | c :: s => Text.bytes [c] ++ unescaped s

/-- An option as it is written. The value of one without an equals sign is empty. -/
def setting (text : List Char) : Setting :=
  let (name, value) := Text.cut '=' text
  (unescaped name, unescaped (value.getD []))

/-- The options in the text after the question mark. An option without a name does not count. -/
def settings (text : List Char) : List Setting :=
  ((Text.parts '&' text).map setting).filter fun s => s.1 ≠ []

/-- The values that are given for an option. -/
def values (name : String) (ss : List Setting) : List (List UInt8) :=
  (ss.filter fun s => s.1 = Text.bytes name.toList).map (·.2)

/-- What a value names, if it is one of these names. -/
def named? {α : Type} (names : List (String × α)) (value : List UInt8) : Option α :=
  (names.find? fun entry => Text.bytes entry.1.toList == value).map (·.2)

/-! ### Modes and locking -/

def Mode.names : List (String × Mode) :=
  [("ro", readOnly), ("rw", readWrite), ("rwc", create), ("memory", memory)]

/-- How much a mode allows to be done to a file. -/
def Mode.reach : Mode → Nat
  | readOnly => 1
  | readWrite => 2
  | create => 3
  | memory => 0

/-- Whether a mode may be replaced by another. In a file no more may be done than before. -/
def Mode.mayBecome (before after : Mode) : Bool :=
  before == memory || after.reach ≤ before.reach

/-- The mode after those that are given one after the other. -/
def Mode.ofValues (mode : Mode) : List (List UInt8) → Except String Mode
  | [] => .ok mode
  | value :: rest =>
      match named? names value with
      | none => .error "no such access mode"
      | some next =>
          if mode.mayBecome next then ofValues next rest else .error "access mode not allowed"

def Locking.names : List (String × Locking) :=
  [("unix", shared), ("unix-excl", exclusive), ("unix-dotfile", lockDirectory),
    ("unix-none", absent), ("memdb", memory)]

/-- The locking that is given last. -/
def Locking.ofValues (given : List (List UInt8)) : Except String Locking :=
  match given.getLast? with
  | none => .ok shared
  | some value =>
      match named? names value with
      | some locking => .ok locking
      | none => .error "no such vfs"

/-- Whether caches of these kinds exist. -/
def areCaches (given : List (List UInt8)) : Bool :=
  given.all fun value => (named? [("shared", ()), ("private", ())] value).isSome

/-! ### Switches -/

/-- The number that the digits at the beginning of a row give, after those that make up `acc`. -/
def leadingNumber (base acc : Nat) : List UInt8 → Nat
  | [] => acc
  | b :: s =>
      match Text.hexValue? (Char.ofNat b.toNat) with
      | none => acc
      | some d => if d < base then leadingNumber base (base * acc + d) s else acc

/-- The number at the beginning of a row, in decimal or, after `0x`, hexadecimal digits. -/
def number (value : List UInt8) : Nat :=
  match value.map fun b => Char.ofNat b.toNat with
  | '0' :: 'x' :: _ => leadingNumber 16 0 (value.drop 2)
  | '0' :: 'X' :: _ => leadingNumber 16 0 (value.drop 2)
  | _ => leadingNumber 10 0 value

/-- Whether a value switches its option on. A number does unless its last eight bits are zero or it
takes more than thirty-one bits. -/
def isOn (value : List UInt8) : Bool :=
  if (value.head?.map fun b => Char.isDigit (Char.ofNat b.toNat)).getD false then
    number value < 0x80000000 && number value % 256 != 0
  else
    let folded := value.map fun b => if 65 ≤ b ∧ b ≤ 90 then b + 32 else b
    (named? [("on", ()), ("yes", ()), ("true", ())] folded).isSome

/-- Whether an option is switched on where it is first given. -/
def hasOn (name : String) (ss : List Setting) : Bool :=
  ((values name ss).head?.map isOn).getD false

/-! ### Reading -/

/-- The location of a path with its options. -/
def ofSettings (path : List UInt8) (ss : List Setting) : Except String Location := do
  let mode ← Mode.ofValues .create (values "mode" ss)
  if !areCaches (values "cache" ss) then .error "no such cache mode"
  let locking ← Locking.ofValues (values "vfs" ss)
  .ok
    { path, mode, locking
      isFixed := hasOn "immutable" ss
      isUnlocked := hasOn "nolock" ss
      likeFile := (values "modeof" ss).head? }

/-- The text after the host, which must be this one. Two slashes begin the name of a host. -/
def afterHost? : List Char → Option (List Char)
  | '/' :: '/' :: s =>
      let (host, path) := Text.cut '/' s
      if host = [] ∨ host = "localhost".toList then
        some ((path.map fun path => '/' :: path).getD [])
      else none
  | s => some s

/-- Reads what follows `file:`. -/
def ofReference (s : List Char) : Except String Location :=
  match afterHost? s with
  | none => .error "invalid uri authority"
  | some s =>
      let (path, options) := Text.cut '?' (Text.cut '#' s).1
      ofSettings (unescaped path) ((options.map settings).getD [])

/-- The location that a text gives. A text with the character zero gives none. -/
def read? (text : String) : Except String Location :=
  if text.toList.contains '\x00' then .error "nul byte found in provided data"
  else
    match text.toList with
    | 'f' :: 'i' :: 'l' :: 'e' :: ':' :: s => ofReference s
    | s => .ok { path := Text.bytes s }

/-! ### Kinds of locations -/

/-- The path of a database that no file keeps. -/
def memoryPath : List UInt8 := Text.bytes ":memory:".toList

/-- Whether no file keeps the database. -/
def isPrivate (l : Location) : Bool :=
  l.path == [] || l.path == memoryPath || l.mode == .memory

/-- Whether the database is there to be read only. -/
def isReadOnly (l : Location) : Bool :=
  l.mode == .readOnly

/-- Whether a lock is put beside the database. -/
def usesLockDirectory (l : Location) : Bool :=
  l.locking == .lockDirectory && !l.isUnlocked

/-- Whether changes may be kept in a log beside the database. -/
def mayHaveLog (l : Location) : Bool :=
  (l.locking == .shared || l.locking == .exclusive) && !l.isUnlocked

end Location

end WallClock.Store
