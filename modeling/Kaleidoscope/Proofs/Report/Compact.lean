import Kaleidoscope.Proofs.Node.Compact
import Kaleidoscope.Proofs.Source.Shape
import Kaleidoscope.Proofs.Transcript.Delivery
import Kaleidoscope.Report

/-! What a report in the compact form tells about a source.

Main statement: lists of trees with the same compact lines are the same, and so two sources of which all
forms are reported alike have been read alike.
-/

set_option autoImplicit false

namespace Kaleidoscope

theorem IsName.isWord {name : String} (isName : IsName name) : IsWord name :=
  ⟨isName.begins, isName.goesOn⟩

theorem Node.ReadFrom.printable {source : String} {node : Node} (read : node.ReadFrom source) :
    node.Everywhere Node.Printable := fun inner within =>
  ⟨fun name member => (read.names inner within name member).1.isWord,
    fun value member => (read.numbers inner within value member).1⟩

theorem Transcript.of_deliver_ok {transcript : Transcript} {limit : Option Nat} {sent : List UInt8}
    (arrived : transcript.deliver limit = (sent, .ok ())) :
    transcript.ending = .ok () ∧ Text.encode (String.join transcript.writes) = sent := by
  rw [← bytes_eq]
  cases limit with
  | none =>
    rw [deliver_none] at arrived
    obtain ⟨whole, ended⟩ := Prod.mk.inj arrived
    exact ⟨ended, whole⟩
  | some room =>
    rw [deliver_some] at arrived
    obtain ⟨whole, ended⟩ := Prod.mk.inj arrived
    split at ended
    · next fits => exact ⟨ended, by rwa [List.take_of_length_le fits] at whole⟩
    · simp at ended

theorem Text.encode_injective {first second : String} (same : encode first = encode second) :
    first = second := by
  have decoded : decode? (encode second) = some first := decode?_eq_some_iff.mpr same
  rw [decode?_eq_some_iff.mpr rfl] at decoded
  exact (Option.some.inj decoded).symm

namespace Report

/-- The options for the compact form of every form of a source, and of nothing else. -/
structure Compact (options : Options) : Prop where
  program : options.program = true
  tokens : options.tokens = false
  inspectTree : options.inspectTree = false

theorem Compact.program_of_deliver_ok {options : Options} (compact : Compact options) {source : String}
    {limit : Option Nat} {sent : List UInt8}
    (arrived : (ofSource options source).deliver limit = (sent, .ok ())) :
    ∃ nodes, Source.program options.policy source = .ok nodes ∧
      Text.encode (Node.compactLines nodes) = sent := by
  obtain ⟨ended, whole⟩ := Transcript.of_deliver_ok arrived
  have report : ofSource options source =
      ofResult source (·.map (tree options)) (Source.program options.policy source) := by
    simp [ofSource, trees, compact.tokens, compact.program]
  rw [report] at ended whole
  cases read : Source.program options.policy source with
  | error error => simp [read, ofResult, Transcript.fail] at ended
  | ok nodes =>
    refine ⟨nodes, rfl, ?_⟩
    rw [read] at whole
    have lines : tree options = (·.compact ++ "\n") := by
      funext node
      simp [tree, compact.inspectTree]
    rw [← whole]
    simp only [ofResult, Transcript.ofWrites, lines]
    rfl

theorem compact_determines :
    (∀ nodes others : List Node, (∀ node ∈ nodes ++ others, node.Everywhere Node.Printable) →
      Node.compactLines nodes = Node.compactLines others → nodes = others) ∧
    ∀ (options options' : Options) (source source' : String) (limit limit' : Option Nat)
      (sent : List UInt8), Compact options → Compact options' →
      (ofSource options source).deliver limit = (sent, .ok ()) →
      (ofSource options' source').deliver limit' = (sent, .ok ()) →
      ∃ nodes, Source.program options.policy source = .ok nodes ∧
        Source.program options'.policy source' = .ok nodes := by
  refine ⟨fun nodes others printable same => ?_, ?_⟩
  · obtain ⟨left, right⟩ := List.forall_mem_append.mp printable
    exact Node.compactLines_injective left right same
  · intro options options' source source' limit limit' sent compact compact' arrived arrived'
    obtain ⟨nodes, read, whole⟩ := compact.program_of_deliver_ok arrived
    obtain ⟨others, read', whole'⟩ := compact'.program_of_deliver_ok arrived'
    have same := Text.encode_injective (whole.trans whole'.symm)
    have printable (node : Node) (member : node ∈ nodes) :=
      (Source.readFrom_of_program read member).printable
    have printable' (node : Node) (member : node ∈ others) :=
      (Source.readFrom_of_program read' member).printable
    rw [← Node.compactLines_injective printable printable' same] at read'
    exact ⟨nodes, read, read'⟩

-- Neither the policies nor the room for the output are the same.
theorem compact_determines_respelled :
    ∃ nodes, Source.program .reject "f(x) y" = .ok nodes ∧
      Source.program .skip "f ( x ) # c\n$ y" = .ok nodes := by
  have arrived : (ofSource ⟨none, false, true, false, false⟩ "f(x) y").deliver none =
      (Text.encode "FunctionCall(f, [Identifier(x)])\nIdentifier(y)\n", .ok ()) := by
    decide +kernel
  have arrived' : (ofSource ⟨none, false, true, true, false⟩ "f ( x ) # c\n$ y").deliver (some 47) =
      (Text.encode "FunctionCall(f, [Identifier(x)])\nIdentifier(y)\n", .ok ()) := by
    decide +kernel
  exact compact_determines.2 _ _ _ _ _ _ _ ⟨rfl, rfl, rfl⟩ ⟨rfl, rfl, rfl⟩ arrived arrived'

end Report

end Kaleidoscope
