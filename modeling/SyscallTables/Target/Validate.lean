import SyscallTables.Target.Basic

namespace SyscallTables.Target

/-! Checking targets. A target needs an OS and an architecture, a pointer size of 4 or 8, a
page size that is a power of two, a nonzero number of pages and at least one C macro, and no
two targets may share an OS and an architecture. Every problem of every target is listed, in
target order and, within a target, in that order. -/

/-- Whether a number is a power of two; zero is not. -/
def isPowerOfTwo (n : Nat) : Bool := n != 0 && n &&& (n - 1) == 0

/-- The problems of one target, given the targets before it. -/
def issuesOf (before : List Target) (t : Target) : List String :=
  let name := t.name
  (if t.os.isEmpty || t.arch.isEmpty then ["target '" ++ name ++ "' has an empty os or arch"]
   else []) ++
  (if t.ptrSize != 4 && t.ptrSize != 8 then
    [name ++ ": pointer size " ++ toString t.ptrSize ++ " is not 4 or 8"] else []) ++
  (if !isPowerOfTwo t.pageSize then
    [name ++ ": page size " ++ toString t.pageSize ++ " is not a power of 2"] else []) ++
  (if t.numPages = 0 then [name ++ ": num-pages is 0"] else []) ++
  (if t.cArch.isEmpty then [name ++ ": no C architecture macros"] else []) ++
  (if before.any (fun u => u.os == t.os && u.arch == t.arch) then ["duplicate target " ++ name]
   else [])

/-- Every problem of a list of targets. -/
def issues (targets : List Target) : List String :=
  let rec go : List Target → List Target → List String
    | _, [] => []
    | before, t :: rest => issuesOf before t ++ go (before ++ [t]) rest
  go [] targets

end SyscallTables.Target
