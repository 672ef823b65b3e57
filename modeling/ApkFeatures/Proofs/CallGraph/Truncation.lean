/-
**Files that are cut off.**

A call graph file that is cut before the bracket that closes its `graph` list is refused, wherever
the cut falls. A cut file that loads would have a `graph` list of its own; the tokens up to the
bracket of that list stand at the beginning of the whole file too, before the bracket of its list,
so the whole file would have two.

* `OnlyGraph.others_ne` — an accepted document has one `graph` entry, in one place.
* `load_truncated` — the cut file is refused.
-/
import ApkFeatures.Proofs.Gml.Lexing
import ApkFeatures.Proofs.CallGraph.Schema

namespace ApkFeatures.CallGraph

open Gml

/-- **The bracket that closes the top-level `graph` list**, with what stands inside and behind it:
it is the last character of the entries that end in the `graph` list. -/
def GraphCloses (source inside outside : List Char) : Prop :=
  source = inside ++ ']' :: outside ∧ ∃ before entries line,
    Lexes 1 source (flatten (before ++ [("graph", .list entries)])) line outside

/-- The tokens of entries that end in a list end in a closing bracket. -/
theorem flatten_list (before : List Gml.Entry) (key : String) (entries : List Gml.Entry) :
    flatten (before ++ [(key, .list entries)]) =
      flatten before ++ (.key key :: .opening :: flatten entries) ++ [.closing] := by
  simp [Value.tokens]

/-- **An accepted document has one `graph` entry, in one place.** -/
theorem OnlyGraph.others_ne {before after entries : List Gml.Entry} {value : Value}
    (only : OnlyGraph (before ++ ("graph", value) :: after) entries) :
    ∀ entry ∈ before ++ after, entry.1 ≠ "graph" := by
  obtain ⟨before', after', same, others⟩ := only
  rcases List.append_eq_append_iff.mp same with ⟨between, rfl, tail⟩ | ⟨between, rfl, tail⟩
  · cases between with
    | nil =>
      cases tail
      rwa [List.append_nil] at others
    | cons entry between =>
      cases tail
      exact absurd rfl (others ("graph", value) (by simp))
  · cases between with
    | nil =>
      cases tail
      rwa [List.append_nil]
    | cons entry between =>
      cases tail
      exact absurd rfl (others ("graph", value) (by simp))

/-- A file that loads begins with the tokens of entries that end in a `graph` list. -/
theorem lexes_graph_of_load {source : List Char} {graph : CallGraph}
    (loaded : load source = .ok graph) :
    ∃ before entries line rest,
      Lexes 1 source (flatten (before ++ [("graph", .list entries)])) line rest := by
  obtain ⟨document, parsed, accepted⟩ := load_eq_ok_iff.mp loaded
  obtain ⟨entries, ⟨before, after, rfl, _⟩, _⟩ := ofDocument_eq_ok_iff.mp accepted
  obtain ⟨last, rest, reached, lexes, _⟩ := parse_tokens parsed
  rw [List.append_cons, flatten_append] at lexes
  obtain ⟨line, behind, graphs, _⟩ := lexes.split
  exact ⟨before, entries, line, behind, graphs⟩

/-- **A file that loads closes its `graph` list.** -/
theorem exists_graphCloses {source : List Char} {graph : CallGraph}
    (loaded : load source = .ok graph) : ∃ inside outside, GraphCloses source inside outside := by
  obtain ⟨before, entries, line, outside, lexes⟩ := lexes_graph_of_load loaded
  have bracketed := lexes
  rw [flatten_list] at bracketed
  obtain ⟨inside, whole⟩ := bracketed.bracket_of_closing
  exact ⟨inside, outside, whole, before, entries, line, lexes⟩

/-- **A file that is cut before its `graph` list is closed does not load.** -/
theorem not_load_of_cut {source inside outside cut : List Char} {graph smaller : CallGraph}
    (loaded : load source = .ok graph) (closes : GraphCloses source inside outside)
    (early : cut <+: inside) : load cut ≠ .ok smaller := by
  intro accepted
  obtain ⟨document, parsed, described⟩ := load_eq_ok_iff.mp loaded
  obtain ⟨_, only, _⟩ := ofDocument_eq_ok_iff.mp described
  obtain ⟨whole, before, entries, line, lexes⟩ := closes
  obtain ⟨tail, rfl⟩ := early
  rw [List.append_assoc] at whole
  subst whole
  -- the bracket that closes the list of the cut file closes it in the whole file as well
  obtain ⟨before', entries', line', rest, cutLexes⟩ := lexes_graph_of_load accepted
  rw [flatten_list] at cutLexes
  have longer := cutLexes.append_closing _ (tail ++ ']' :: outside)
  rw [← flatten_list] at longer
  -- and it stands before the bracket of the list of the whole file
  have less : outside.length < (rest ++ (tail ++ ']' :: outside)).length := by
    simp only [List.length_append, List.length_cons]
    omega
  obtain ⟨more, same, follows⟩ := longer.compare lexes (Nat.le_of_lt less)
  obtain ⟨others, goesOn⟩ := prefix_of_flatten_append same.symm
  rcases List.eq_nil_or_concat others with rfl | ⟨between, entry, rfl⟩
  · -- the same list: then the same characters would follow it
    rw [List.append_nil] at goesOn
    rw [← goesOn, List.self_eq_append_right] at same
    subst same
    generalize rest ++ (tail ++ ']' :: outside) = left at less follows
    cases follows with
    | done => exact absurd less (Nat.lt_irrefl _)
  · -- an earlier list: then the whole file has two
    rw [List.concat_eq_append, ← List.append_assoc] at goesOn
    obtain ⟨rfl, _⟩ := List.append_inj' goesOn rfl
    obtain ⟨rest, written⟩ := (parse_tokens parsed).begins lexes
    obtain ⟨after, rfl⟩ := prefix_of_flatten_append written
    rw [← List.append_cons] at only
    exact only.others_ne ("graph", .list entries') (by simp) rfl

/-- **A truncated call graph never loads.** A file that loads has a bracket that closes its
top-level `graph` list, and every beginning of the file that does not reach this bracket is
refused. -/
theorem load_truncated {source : List Char} {graph : CallGraph}
    (loaded : load source = .ok graph) :
    (∃ inside outside, GraphCloses source inside outside) ∧
      ∀ inside outside, GraphCloses source inside outside →
        ∀ cut, cut <+: inside → ∃ fault, load cut = .error fault := by
  refine ⟨exists_graphCloses loaded, fun inside outside closes cut early => ?_⟩
  cases smaller : load cut with
  | error fault => exact ⟨fault, rfl⟩
  | ok other => exact absurd smaller (not_load_of_cut loaded closes early)

/-- A file that is cut inside a number, where a shorter number is left. -/
theorem load_truncated_sample :
    ∃ graph, load "graph[directed 1 id 12]".toList = .ok graph ∧
      GraphCloses "graph[directed 1 id 12]".toList "graph[directed 1 id 12".toList [] ∧
        ∃ fault, load "graph[directed 1 id 1".toList = .error fault := by
  let entries : List Gml.Entry := [("directed", .int 1), ("id", .int 12)]
  have lexes : Lexes 1 "graph[directed 1 id 12]".toList
      (flatten [("graph", .list entries)]) 1 [] :=
    .cons rfl <| .cons rfl <| .cons rfl <| .cons rfl <| .cons rfl <| .cons rfl <| .cons rfl <|
    .done 1 []
  have parsed : parse "graph[directed 1 id 12]".toList = .ok [("graph", .list entries)] :=
    parse_of_tokens (by decide) ⟨1, [], 1, lexes, rfl⟩
  have loaded : load "graph[directed 1 id 12]".toList = .ok empty :=
    load_eq_ok_iff.mpr ⟨_, parsed, rfl⟩
  have closes : GraphCloses "graph[directed 1 id 12]".toList "graph[directed 1 id 12".toList [] :=
    ⟨rfl, [], entries, 1, lexes⟩
  exact ⟨empty, loaded, closes, (load_truncated loaded).2 _ _ closes _ ⟨['2'], rfl⟩⟩

end ApkFeatures.CallGraph
