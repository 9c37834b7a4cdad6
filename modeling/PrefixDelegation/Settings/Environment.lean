/-!
# Environments

The variables that a program is started with. A variable that is set to the empty text is there;
whether that means anything is for the reader of the variable to say.
-/

namespace PrefixDelegation

/-- Names and their values, at most one value for each name. -/
structure Environment where
  bindings : List (String × String)
deriving Repr, DecidableEq

namespace Environment

/-- The value of a variable. -/
def get? (e : Environment) (name : String) : Option String := e.bindings.lookup name

/-- Takes a variable away. -/
def unset (e : Environment) (name : String) : Environment :=
  ⟨e.bindings.filter (·.1 ≠ name)⟩

/-- Gives a variable a value. -/
def set (e : Environment) (name value : String) : Environment :=
  ⟨(name, value) :: (e.unset name).bindings⟩

end Environment

end PrefixDelegation
