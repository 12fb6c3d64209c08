/-
# ListExpansion.Daemon.Failure -- why the daemon or the program gave up

A failure is a message and the messages of its causes, outermost first.

Whoever fails says so and is done with.  It is another matter if somebody breaks off
(`Upshot`): he never comes to a result, and takes all with him who wait for it.
-/

namespace ListExpansion

set_option autoImplicit false

/-- The course of a piece of work: it ends, and this is what it comes to, or it breaks off,
with these as its last words. -/
inductive Upshot (α : Type) where
  | ended (result : α)
  | brokeOff (words : String)
  deriving DecidableEq, Repr

structure Failure where
  message : String
  causes : List String
  deriving DecidableEq, Repr

namespace Failure

def of (message : String) : Failure := ⟨message, []⟩

/-- What was being done when the failure came. -/
def during (failure : Failure) (message : String) : Failure :=
  ⟨message, failure.message :: failure.causes⟩

/-- The message and the causes. -/
def chain (failure : Failure) : List String := failure.message :: failure.causes

/-- A text whose lines all begin in the same column: `first` stands before the first
line and `rest` before every other. -/
def indented (first rest text : String) : String :=
  first ++ String.ofList (text.toList.flatMap fun c => if c = '\n' then c :: rest.toList else [c])

/-- The causes as they are printed: numbered if there are several. -/
def describeCauses : List String → String
  | [] => ""
  | [cause] => "\n\nCaused by:\n" ++ indented "    " "    " cause
  | causes =>
      "\n\nCaused by:" ++
        String.join ((List.range causes.length).zip causes |>.map fun (index, cause) =>
          "\n" ++ indented ("    " ++ toString index ++ ": ") "       " cause)

/-- What is printed when the failure ends the program. -/
def report (failure : Failure) : String :=
  "Error: " ++ failure.message ++ describeCauses failure.causes ++ "\n"

end Failure

end ListExpansion
