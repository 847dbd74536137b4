import ScriptLint.Value.Decoder

/-!
# Paths inside a repository

A path is written with slashes, without leading `./` segments, and is never
empty.  `RepoPath.of` brings any text into this form; a decoded path is kept as
it was written.
-/

namespace ScriptLint

structure RepoPath where
  text : String
  deriving DecidableEq, Repr

namespace RepoPath

def anonymous : String := "<anonymous>"

def slash (character : Char) : Char := if character = '\\' then '/' else character

def dropCurrentSegments : List Char → List Char
  | '.' :: '/' :: rest => dropCurrentSegments rest
  | path => path

def of (text : String) : RepoPath :=
  match dropCurrentSegments (text.toList.map slash) with
  | [] => ⟨anonymous⟩
  | path => ⟨String.ofList path⟩

def decode : Decoder RepoPath := fun value => (Decoder.text value).map RepoPath.mk

def encode (path : RepoPath) : Value := .string path.text

end RepoPath

end ScriptLint
