/-
**Call graphs.**

A call graph holds the methods of a program, each with an identifier of its own and a label, and the
calls between them. Methods and calls are kept in the order in which they were added; two methods
may share a label, and two calls may join the same methods.

The identifiers are distinct and both ends of a call are methods of the graph: the type says so, and
`addMethod` and `addCall` ask for what they need to keep it.
-/

namespace ApkFeatures

/-- A method of a program. -/
structure Method where
  /-- The identifier of the method in its graph. -/
  id : Int64
  /-- The class, the name and the signature of the method. -/
  label : String
deriving DecidableEq

/-- A call from one method to another, by their identifiers. -/
structure Call where
  /-- The method that calls. -/
  caller : Int64
  /-- The method that is called. -/
  callee : Int64
deriving DecidableEq

/-- The calls of a program. -/
structure CallGraph where
  /-- The methods, in the order of the file. -/
  methods : List Method
  /-- The calls, in the order of the file. -/
  calls : List Call
  /-- No two methods have the same identifier. -/
  ids_nodup : (methods.map Method.id).Nodup
  /-- The ends of a call are methods of the graph. -/
  calls_closed : ∀ call ∈ calls,
    call.caller ∈ methods.map Method.id ∧ call.callee ∈ methods.map Method.id

namespace CallGraph

/-- The graph without methods. -/
def empty : CallGraph where
  methods := []
  calls := []
  ids_nodup := List.nodup_nil
  calls_closed := fun _ member => absurd member List.not_mem_nil

/-- Some method has the identifier. -/
def HasId (graph : CallGraph) (id : Int64) : Prop := id ∈ graph.methods.map Method.id

instance (graph : CallGraph) (id : Int64) : Decidable (graph.HasId id) :=
  inferInstanceAs (Decidable (id ∈ graph.methods.map Method.id))

/-- Adds a method with a fresh identifier. -/
def addMethod (graph : CallGraph) (method : Method) (fresh : ¬ graph.HasId method.id) :
    CallGraph where
  methods := graph.methods ++ [method]
  calls := graph.calls
  ids_nodup := by
    rw [List.map_append, List.nodup_append]
    refine ⟨graph.ids_nodup, by simp, fun id member other single => ?_⟩
    rw [List.map_cons, List.map_nil, List.mem_singleton] at single
    exact fun same => fresh (show method.id ∈ _ from single ▸ same ▸ member)
  calls_closed := fun call member => by
    rw [List.map_append]
    exact ⟨List.mem_append_left _ (graph.calls_closed call member).1,
      List.mem_append_left _ (graph.calls_closed call member).2⟩

/-- Adds a call between two methods of the graph. -/
def addCall (graph : CallGraph) (call : Call) (caller : graph.HasId call.caller)
    (callee : graph.HasId call.callee) : CallGraph where
  methods := graph.methods
  calls := graph.calls ++ [call]
  ids_nodup := graph.ids_nodup
  calls_closed := fun other member => by
    rcases List.mem_append.mp member with old | new
    · exact graph.calls_closed other old
    · rw [List.mem_singleton.mp new]
      exact ⟨caller, callee⟩

/-- The method with an identifier. -/
def method? (graph : CallGraph) (id : Int64) : Option Method :=
  graph.methods.find? fun method => method.id == id

/-- The methods with a label, in the order of the graph. -/
def labelled (graph : CallGraph) (label : String) : List Method :=
  graph.methods.filter fun method => method.label == label

/-- The calls to a method. -/
def callsTo (graph : CallGraph) (callee : Method) : List Call :=
  graph.calls.filter fun call => call.callee == callee.id

/-- The methods that call a method, one for each call. -/
def callers (graph : CallGraph) (callee : Method) : List Method :=
  (graph.callsTo callee).filterMap fun call => graph.method? call.caller

/-- The number of calls to a method. -/
def inDegree (graph : CallGraph) (callee : Method) : Nat := (graph.callsTo callee).length

end CallGraph

end ApkFeatures
