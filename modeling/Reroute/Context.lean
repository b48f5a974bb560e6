/-
  Reroute.Context — what a replacement may know of the file it is made in.
-/
import Reroute.Path.Basic

namespace Reroute

/-- What templates can refer to beside the match: the relative path from the directory of the file
    to the scan root. -/
structure Context where
  rootPrefix : String := "./"
deriving DecidableEq, Repr

namespace Context

/-- The way up over so many directories. -/
def ascend (depth : Nat) : String :=
  String.ofList (List.replicate depth ['.', '.', '/']).flatten

/-- The context of a file: one step up for every directory between it and the root.  A file right
    below the root, or not below it at all, has the context of the root itself. -/
def forPath (root path : String) : Context :=
  match Path.depth ((Path.below? root path).getD []) with
  | 0 => {}
  | depth + 1 => { rootPrefix := ascend (depth + 1) }

end Context

end Reroute
