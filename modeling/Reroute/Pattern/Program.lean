/-
  Reroute.Pattern.Program — patterns as programs for ordered threads.

  A pattern is laid out as a list of instructions.  `Node.code r base exit` is the code of `r`
  placed at address `base`; it leaves for address `exit` once `r` has matched.  `Node.size r` is
  its length, whatever the two addresses are.  Of the two targets of a `split` the first is
  preferred.

  A loop whose body may match nothing is laid out as an optional `one or more`, so that a round
  that consumes nothing still counts as a round, in its place in the order of preference.
-/
import Reroute.Pattern.Node

namespace Reroute.Pattern

/-- One instruction; addresses count from 0. -/
inductive Inst where
  /-- The pattern has matched. -/
  | accept
  /-- Go on at the target. -/
  | jump (target : Nat)
  /-- Go on at the first target or, less preferred, at the second. -/
  | split (first second : Nat)
  /-- Take one character of the set. -/
  | consume (members : CharSet) (next : Nat)
  /-- Note the place in the slot. -/
  | save (slot : Nat) (next : Nat)
  /-- Go on only where the assertion holds. -/
  | check (assertion : Assertion) (next : Nat)
deriving DecidableEq, Repr

/-! ## §1. Building blocks -/

/-- Enter a loop body or leave the loop; the body is preferred if `greedy`. -/
def branch (greedy : Bool) (body exit : Nat) : Inst :=
  if greedy then .split body exit else .split exit body

/-- `count` copies of a block of the given size from `base` on, each falling into the next. -/
def copies (block : (base exit : Nat) → List Inst) (size : Nat) : (count base : Nat) → List Inst
  | 0, _ => []
  | count + 1, base => block base (base + size) ++ copies block size count (base + size)

/-- `count` copies of a block, before each of which the thread may leave for `exit`. -/
def optionalCopies (block : (base exit : Nat) → List Inst) (size : Nat) (greedy : Bool)
    (exit : Nat) : (count base : Nat) → List Inst
  | 0, _ => []
  | count + 1, base =>
    branch greedy (base + 1) exit ::
      (block (base + 1) (base + 1 + size) ++
        optionalCopies block size greedy exit count (base + 1 + size))

namespace Node

/-! ## §2. Layout -/

/-- The number of instructions of a pattern's code. -/
def size : Node → Nat
  | empty | set _ | look _ => 1
  | group _ _ body => body.size + 2
  | cat first second => first.size + second.size
  | alt first second => 1 + first.size + second.size
  | rep body 0 none _ => body.size + 2
  | rep body (min + 1) none _ => min * body.size + body.size + 1
  | rep body min (some max) _ => min * body.size + (max - min) * (1 + body.size) + 1

/-- The code of a pattern at address `base`, which leaves for address `exit`. -/
def code : Node → (base exit : Nat) → List Inst
  | empty, _, exit => [.jump exit]
  | set members, _, exit => [.consume members exit]
  | look assertion, _, exit => [.check assertion exit]
  | group index _ body, base, exit =>
    .save (2 * index) (base + 1) ::
      (body.code (base + 1) (base + 1 + body.size) ++ [.save (2 * index + 1) exit])
  | cat first second, base, exit =>
    first.code base (base + first.size) ++ second.code (base + first.size) exit
  | alt first second, base, exit =>
    .split (base + 1) (base + 1 + first.size) ::
      (first.code (base + 1) exit ++ second.code (base + 1 + first.size) exit)
  | rep body 0 none greedy, base, exit =>
    branch greedy (base + 1) exit ::
      (body.code (base + 1) (base + 1 + body.size) ++ [branch greedy (base + 1) exit])
  | rep body (min + 1) none greedy, base, exit =>
    let last := base + min * body.size
    copies body.code body.size min base ++
      body.code last (last + body.size) ++ [branch greedy last exit]
  | rep body min (some max) greedy, base, exit =>
    copies body.code body.size min base ++
      optionalCopies body.code body.size greedy exit (max - min) (base + min * body.size) ++
      [.jump exit]

end Node

/-! ## §3. Programs -/

/-- Instructions in the order of their addresses; a match starts at address 0. -/
abbrev Program := Array Inst

/-- The program of a whole pattern. -/
def Node.program (node : Node) : Program :=
  (node.code 0 node.size ++ [Inst.accept]).toArray

end Reroute.Pattern
