import PolicyReconciler.Program.Effect

namespace PolicyReconciler

/-!
# Printing lines

Lines that inform, and more urgent ones, are printed as they are, each on a
line of its own.
-/

/-- Is a line of this level printed? -/
def isPrinted (level : LogLevel) : Bool :=
  LogLevel.info.value ≤ level.value

/-- The printed form of lines, given with their levels. -/
def printed : List (LogLevel × String) → String
  | [] => ""
  | (level, text) :: rest =>
      if isPrinted level then text ++ "\n" ++ printed rest else printed rest

end PolicyReconciler
