import ModelCatalog.Decimal.Integer
import ModelCatalog.Text.Character

/-!
Where a store is kept, by the name that it is given: the path of a file, or a URI of the scheme
`file` with options. A store may also be kept nowhere, and is lost then when it is closed.
-/

namespace ModelCatalog

inductive LocationFault where
  /-- The name holds a NUL character, after so many bytes. -/
  | nul (position : Nat)
  /-- The URI names another machine. -/
  | authority (name : String)
  | fileSystem (name : String)
  | cacheMode (name : String)
  | accessMode (name : String)
  /-- The name asks for more access than the store is opened with. -/
  | refusedMode (name : String)
  deriving DecidableEq, Repr

def LocationFault.message : LocationFault → String
  | nul position =>
    "nul byte found in provided data at position: " ++ naturalText position
  | authority name => "invalid uri authority: " ++ name
  | fileSystem name => "no such vfs: " ++ name
  | cacheMode name => "no such cache mode: " ++ name
  | accessMode name => "no such access mode: " ++ name
  | refusedMode name => "access mode not allowed: " ++ name

inductive AccessMode where
  | read
  | write
  | create
  /-- Anything, but the store is kept in memory. -/
  | memory
  deriving DecidableEq, Repr

namespace AccessMode

def ofName? (name : String) : Option AccessMode :=
  if name = "ro" then some read
  else if name = "rw" then some write
  else if name = "rwc" then some create
  else if name = "memory" then some memory
  else none

def extent : AccessMode → Nat
  | read => 1
  | write => 2
  | create => 3
  | memory => 4

end AccessMode

structure OpenMode where
  access : AccessMode
  fileSystem : String := "unix"
  /-- The file is said to change never, or not to; a second such option counts for nothing. -/
  isFixed? : Option Bool := none
  deriving DecidableEq, Repr

namespace OpenMode

def fileSystems : List String := ["unix", "unix-none", "unix-dotfile", "unix-excl"]

def memorySystem : String := "memdb"

def isOn (value : String) : Bool :=
  let digits := value.toList.takeWhile Char.isDigit
  let n := Decimal.ofDigits digits
  if digits.isEmpty then
    ["on", "yes", "true"].any fun word => Text.sameAscii word.toList value.toList
  else n < 2147483648 && n % 256 != 0

def apply (mode : OpenMode) (name value : String) : Except LocationFault OpenMode :=
  if name = "vfs" then .ok { mode with fileSystem := value }
  else if name = "cache" then
    if value = "shared" ∨ value = "private" then .ok mode else .error (.cacheMode value)
  else if name = "mode" then
    match AccessMode.ofName? value with
    | none => .error (.accessMode value)
    | some access =>
      if access = .memory ∨ access.extent ≤ mode.access.extent then .ok { mode with access }
      else .error (.refusedMode value)
  else if name = "immutable" then
    .ok { mode with isFixed? := mode.isFixed?.or (some (isOn value)) }
  else .ok mode

end OpenMode

structure StoreLocation where
  /-- The path of the file; none if the store is kept nowhere. -/
  path? : Option String
  mayCreate : Bool
  isReadOnly : Bool
  deriving DecidableEq, Repr

namespace StoreLocation

/-- The bytes of a part of a URI. `%` and two hexadecimal digits stand for one byte, and a byte of
zero ends the part. -/
def partBytes : List Char → List UInt8
  | [] => []
  | c :: rest =>
    match c, rest with
    | '%', a :: b :: after =>
      match Text.hexValue? a, Text.hexValue? b with
      | some high, some low =>
        if 16 * high + low = 0 then [] else UInt8.ofNat (16 * high + low) :: partBytes after
      | _, _ => '%'.toUInt8 :: partBytes (a :: b :: after)
    | c, rest => String.utf8EncodeChar c ++ partBytes rest
termination_by text => text.length

/-- A part of a URI as text. Where the bytes are no text, each one stands for a character. -/
def partText (part : List Char) : String :=
  let bytes := partBytes part
  (String.fromUTF8? ⟨bytes.toArray⟩).getD
    (String.ofList (bytes.map fun byte => Char.ofNat byte.toNat))

def options (query : List Char) : List (String × String) :=
  ((query.splitOn '&').map fun option =>
    (partText (option.takeWhile (· != '=')),
      partText ((option.dropWhile (· != '=')).drop 1))).filter fun (name, _) => !name.isEmpty

/-- The rest of a URI after its authority, which names this machine if it names any. -/
def afterAuthority : List Char → Except LocationFault (List Char)
  | '/' :: '/' :: rest =>
    let name := String.ofList (rest.takeWhile (· != '/'))
    if name.isEmpty ∨ name = "localhost" then .ok (rest.dropWhile (· != '/'))
    else .error (.authority name)
  | rest => .ok rest

def ofMode (file : String) (mode : OpenMode) : Except LocationFault StoreLocation :=
  let inMemory := mode.fileSystem == OpenMode.memorySystem
  if !inMemory && !OpenMode.fileSystems.contains mode.fileSystem then
    .error (.fileSystem mode.fileSystem)
  else
    let nowhere := inMemory || file.isEmpty || file == ":memory:" || mode.access == .memory
    .ok { path? := if nowhere then none else some file
          mayCreate := mode.access == .create
          isReadOnly := mode.access == .read || (!nowhere && mode.isFixed? == some true) }

def ofUri (mode : OpenMode) (uri : List Char) : Except LocationFault StoreLocation := do
  let rest := (← afterAuthority uri).takeWhile (· != '#')
  let query := (rest.dropWhile (· != '?')).drop 1
  let mode ← (options query).foldlM (fun mode (name, value) => mode.apply name value) mode
  ofMode (partText (rest.takeWhile (· != '?'))) mode

def ofName (access : AccessMode) (name : String) : Except LocationFault StoreLocation :=
  let before := name.toList.takeWhile fun c => c.toNat != 0
  if before.length < name.length then .error (.nul (String.ofList before).utf8ByteSize)
  else
    match name.toList with
    | 'f' :: 'i' :: 'l' :: 'e' :: ':' :: uri => ofUri { access } uri
    | _ => ofMode name { access }

end StoreLocation

end ModelCatalog
