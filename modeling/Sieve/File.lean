/-!
# Sieve.File

What stands at a path: a text, or the reason why none can be read from there.
-/

namespace Sieve

inductive FileFault where
  | missing
  | directory
  | notText
  deriving DecidableEq, Repr

def FileFault.message : FileFault → String
  | .missing => "No such file or directory (os error 2)"
  | .directory => "Is a directory (os error 21)"
  | .notText => "stream did not contain valid UTF-8"

end Sieve
