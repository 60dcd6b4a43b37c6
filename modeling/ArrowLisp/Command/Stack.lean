/-!
# The evaluation stack

Evaluation nests on a stack whose size the user chooses in MiB. A size is refused when its bytes
cannot be counted in 64 bits, and the stack cannot be made when it would not fit into memory.
-/

namespace ArrowLisp.Command

/-- How a job on the stack ends. -/
inductive JobEnd where
  | done
  | failed (message : String)
  | crashed

inductive StackError where
  | tooLarge (mib : Nat)
  | noRoom
  | crashed
  | job (message : String)

def StackError.message : StackError → String
  | .tooLarge mib => "Stack size of " ++ toString mib ++ " MiB is too large"
  | .noRoom =>
    "Failed to spawn evaluation thread: Resource temporarily unavailable (os error 11)"
  | .crashed => "Evaluation thread panicked"
  | .job message => message

/-- The memory that a stack has to fit into, in MiB: 32 GiB. -/
def memorySize : Nat := Nat.pow 2 15

/-- Can a stack of this size be made? -/
def checkStack (mib : Nat) : Except StackError Unit :=
  if Nat.pow 2 64 ≤ mib * Nat.pow 2 20 then .error (.tooLarge mib)
  else if memorySize ≤ mib then .error .noRoom
  else .ok ()

/-- What the end of a job means for the run. -/
def JobEnd.outcome : JobEnd → Except StackError Unit
  | .done => .ok ()
  | .failed message => .error (.job message)
  | .crashed => .error .crashed

/-- The outcome of a job on a stack of this size. -/
def runOnStack (mib : Nat) (job : JobEnd) : Except StackError Unit := do
  checkStack mib
  job.outcome

/-- How deeply evaluations may nest on a stack of this size. -/
def stackDepth (mib : Nat) : Nat :=
  (mib + 1) * 4096

end ArrowLisp.Command
