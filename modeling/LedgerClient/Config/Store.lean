import LedgerClient.Config.Text

/-!
# The configuration file

A configuration is kept in one file below the user's configuration directory. What stands at the
file's path decides what loading and saving do.

## The model

`Store` is what stands at the path: nothing, a file with its bytes, a directory, or nothing
because the parent directory is itself a plain file. Loading reads the store and leaves it
alone. Saving makes the parent directory, then replaces the file; it fails where a directory
stands in the file's place and where the parent is a plain file.
-/

namespace LedgerClient

/-- What stands at the path of the configuration file. -/
inductive Store where
  /-- Nothing. -/
  | absent
  /-- A file. -/
  | file (content : ByteArray)
  /-- A directory. -/
  | directory
  /-- Nothing, and a plain file in place of the parent directory. -/
  | blocked

namespace Store

/-- The text at the path, if there is a file that holds one. -/
def text? : Store → Option String
  | file content => String.fromUTF8? content
  | _ => none

/-- The configuration at the path: the standard one where nothing stands. -/
def load : Store → Except ConfigError ClientConfig
  | absent => .ok .standard
  | blocked => .ok .standard
  | directory => .error (.io "Is a directory")
  | file content =>
    match String.fromUTF8? content with
    | none => .error (.io "stream did not contain valid UTF-8")
    | some text =>
      match ClientConfig.ofText? text with
      | some c => .ok c
      | none => .error (.json "not a configuration")

/-- What stands at the path after a configuration was saved, or why it could not be. -/
def save (c : ClientConfig) : Store → Except ConfigError Store
  | absent => .ok (file c.prettyText.toUTF8)
  | file _ => .ok (file c.prettyText.toUTF8)
  | directory => .error (.io "Is a directory")
  | blocked => .error (.io "Not a directory")

/-! ### Histories -/

/-- A step in the life of the store: the first two are the client's, the others come from
outside. -/
inductive Step where
  /-- A configuration is saved. -/
  | save (config : ClientConfig)
  /-- The configuration is loaded. -/
  | load
  /-- The file is given other content, and the directories above it are made. -/
  | write (content : ByteArray)
  /-- What stands at the path is removed. -/
  | remove
  /-- A directory is put in the place of the file. -/
  | makeDirectory
  /-- A plain file is put in the place of the parent directory. -/
  | blockParent

/-- What a step leaves at the path. -/
def after (store : Store) : Step → Store
  | .save c =>
    match store.save c with
    | .ok saved => saved
    | .error _ => store
  | .load => store
  | .write content => file content
  | .remove =>
    match store with
    | blocked => blocked
    | _ => absent
  | .makeDirectory => directory
  | .blockParent => blocked

/-- What a list of steps leaves at the path. -/
def afterAll (store : Store) (steps : List Step) : Store := steps.foldl after store

/-! ### Paths -/

/-- A name put below a directory; a slash at the end of the directory is not doubled. -/
def join (directory name : String) : String :=
  if directory.endsWith "/" then directory ++ name else directory ++ "/" ++ name

/-- The directory of the configuration file. The configuration home counts only if it is an
absolute path; else it lies in the user's home. -/
def configDirectory (home : String) (configHome : Option String) : String :=
  let base :=
    match configHome with
    | some path => if path.startsWith "/" then path else join home ".config"
    | none => join home ".config"
  join base "subtensor-client"

/-- The path of the configuration file. -/
def configPath (home : String) (configHome : Option String) : String :=
  join (configDirectory home configHome) "client.json"

end Store

end LedgerClient
