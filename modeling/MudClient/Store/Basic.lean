import MudClient.Settings
import MudClient.Store.Digest
import MudClient.Store.Disk
/-! The store keeps the settings and the configuration of each world in a directory of its own. A
configuration that is known to stand in its file already is not written again. -/
namespace MudClient

inductive StoreError where
  | files
  /-- A settings file does not hold settings. -/
  | format
  deriving DecidableEq, Repr

structure Store where
  disk : Disk
  /-- The digest of the configuration of each world that was read or written last. -/
  known : NameMap (List UInt8)
  deriving DecidableEq

namespace Store

def onDisk (disk : Disk) : Store := ⟨disk, ∅⟩

def worlds : Text := "worlds".toList

def settingsFile : Text := "settings.json".toList

def scriptFile : Text := "config.set".toList

/-- The directory of a world, as it is written. -/
def dirText (name : Text) : Text :=
  let parts := worlds :: Text.splitAtChar '/' name
  Text.join ['/'] (parts.reverse.dropWhile fun c => c.isEmpty || c == ['.']).reverse

/-- The names on the way to the directory of a world. -/
def dirNames (name : Text) : List Text := worlds :: Disk.components name

/-- What stands in a file of a world, if there is such a file. -/
def entry? (s : Store) (name file : Text) : Option Entry :=
  s.disk.resolve? [] (dirNames name ++ [file])

def textOfEntry : Entry → Except StoreError Text
  | .file (some text) => .ok text
  | _ => .error .files

/-- A world without a settings file has the usual settings. -/
def loadSettings (s : Store) (name : Text) : Except StoreError Settings :=
  match s.entry? name settingsFile with
  | none => .ok (.create name)
  | some e => do
    match Settings.ofText? (← textOfEntry e) with
    | some settings => return settings
    | none => throw .format

def write (s : Store) (name file text : Text) : Store × Bool :=
  let (disk, done) := s.disk.write (dirNames name) file (some text)
  ({ s with disk := disk }, done)

def saveSettings (s : Store) (settings : Settings) : Store × Except StoreError Unit :=
  let (s, done) := s.write settings.name settingsFile settings.toText
  (s, if done then .ok () else .error .files)

def know (s : Store) (name content : Text) : Store :=
  { s with known := s.known.insert name content.digest }

/-- A world without a configuration has an empty one. -/
def loadScript (s : Store) (name : Text) : Store × Except StoreError Text :=
  match (s.entry? name scriptFile).elim (.ok []) textOfEntry with
  | .ok content => (s.know name content, .ok content)
  | .error e => (s, .error e)

/-- Tells whether the configuration was written. -/
def saveScript (s : Store) (name content : Text) : Store × Except StoreError Bool :=
  if s.known.get? name = some content.digest then (s, .ok false)
  else
    let (s, done) := s.write name scriptFile content
    if done then (s.know name content, .ok true) else (s, .error .files)

def list (s : Store) : Except StoreError (List Text) :=
  match s.disk.resolve? [] [worlds] with
  | none => .ok []
  | some .dir => .ok (s.disk.dirNames [worlds])
  | some (.file _) => .error .files

end Store
end MudClient
