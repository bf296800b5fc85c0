/-!
Texts by file name, in the order in which the names were first used.
-/

namespace HalBridge

structure FileSet where
  entries : List (String × String) := []

namespace FileSet

def putEntry (name text : String) : List (String × String) → List (String × String)
  | [] => [(name, text)]
  | (n, t) :: rest => if n = name then (name, text) :: rest else (n, t) :: putEntry name text rest

/-- Sets the text of a file; a name used before keeps its place. -/
def put (files : FileSet) (name text : String) : FileSet :=
  ⟨putEntry name text files.entries⟩

def putAll (files : FileSet) (more : List (String × String)) : FileSet :=
  more.foldl (fun files entry => files.put entry.1 entry.2) files

end FileSet

end HalBridge
