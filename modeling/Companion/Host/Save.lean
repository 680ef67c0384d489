import Companion.Files.Path
import Companion.Host.Basic

/-!
# Saving companions in files

A companion goes into a file named after it. The output directory is made if it is missing; a
companion without text is not saved at all.
-/

namespace Companion

inductive SaveError where
  | notPlainName (unit : String)
  | directory (path : String)
  | file (path : String)
deriving DecidableEq, Repr

def SaveError.message : SaveError → String
  | .notPlainName unit => s!"Unit name '{unit}' is not a plain file name"
  | .directory path => s!"Failed to create output directory {path}"
  | .file path => s!"Failed to write {path}"

def unitFileName (unit : String) : String :=
  unit ++ ".java"

/-- Saves the source of a unit in a directory. Gives the path of the file, if there is one. -/
def saveUnit {m : Type → Type} [Monad m] [Host m] (directory unit source : String) :
    m (Except SaveError (Option String)) := do
  if source = "" then
    pure (.ok none)
  else if !Path.isPlainName unit then
    pure (.error (.notPlainName unit))
  else if !(← Host.makeDirectories directory) then
    pure (.error (.directory directory))
  else
    let path := Path.join directory (unitFileName unit)
    if !(← Host.writeFile path source.toUTF8) then
      pure (.error (.file path))
    else
      Host.log (.generated path)
      pure (.ok (some path))

end Companion
