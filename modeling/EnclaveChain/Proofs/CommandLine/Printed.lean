import EnclaveChain.CommandLine.Program

/-!
# Parts of a run, one after the other

What a part printed stands before what the next part prints, and after a failure nothing more is
printed. Connecting to a node prints two lines when the node is reached.
-/
namespace EnclaveChain.CommandLine

open Terminal

namespace Printed

variable {α β : Type} {first : Printed α} {next : α → Printed β}

/-- After a value the second part is done, and its lines come last. -/
theorem bind_of_ok {value : α} (done : first.result = .ok value) :
    first >>= next = ⟨(next value).result, first.lines ++ (next value).lines⟩ := by
  change first.andThen next = _
  simp only [andThen, done]

/-- After a failure nothing is done. -/
theorem bind_of_error {failure : Failure} (failed : first.result = .error failure) :
    first >>= next = ⟨.error failure, first.lines⟩ := by
  change first.andThen next = _
  simp only [andThen, failed]

/-- A value of the library is passed on. -/
@[simp]
theorem mapError_ok_bind {ε : Type} (wrap : ε → Failure) (value : α) :
    ofExcept ((Except.ok value).mapError wrap) >>= next = next value :=
  bind_of_ok rfl

/-- A failure of the library ends the run. -/
@[simp]
theorem mapError_error_bind {ε : Type} (wrap : ε → Failure) (fault : ε) :
    ofExcept ((Except.error fault).mapError wrap) >>= next = ⟨.error (wrap fault), []⟩ :=
  bind_of_error rfl

/-- The value of an operation of the library is passed on. -/
theorem ofTraced_bind {traced : Traced α} {value : α} (done : traced.result = .ok value) :
    ofTraced traced >>= next = next value := by
  rw [ofTraced, done, mapError_ok_bind]

/-- A line stands before what comes after it. -/
@[simp]
theorem line_bind (printed : Line) (next : Unit → Printed β) :
    line printed >>= next = ⟨(next ()).result, printed :: (next ()).lines⟩ :=
  bind_of_ok rfl

end Printed

/-- What is printed when a node is reached. -/
def connectedLines (config : Config) : List Line :=
  [progress "Connecting to blockchain...", info ("Connected to " ++ config.url)]

/-- A node that is reached is what connecting comes to. -/
theorem connect_of_ok {world : World} {config : Config} {node : Node}
    (reached : (world.network.connect config.url).result = .ok node) :
    connect world config = ⟨.ok node, connectedLines config⟩ := by
  simp only [connect, reached]
  rfl

end EnclaveChain.CommandLine
