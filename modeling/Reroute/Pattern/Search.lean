/-
  Reroute.Pattern.Search — leftmost, preference-ordered search.

  Threads run over the text in step, kept in order of preference.  `expand` follows the
  instructions that consume nothing and drops a thread that comes to an address already reached at
  this place by a preferred one: what follows depends on address and place only, so the dropped
  thread could not win.  `follow` runs a front to its end: the first accepting thread wins unless a
  thread before it accepts later.  `scan` adds a fresh, least preferred thread at every place until
  one accepts, so that the match that starts first wins.

  The recursion is on the remaining text; each place costs at most a step per instruction.
-/
import Reroute.Pattern.Program

namespace Reroute.Pattern

/-! ## §1. Threads -/

/-- The places noted so far: slots `2 i` and `2 i + 1` hold the ends of group `i`, and group 0 is
    the whole match. -/
abbrev Slots := List (Option Nat)

/-- A thread: the address it has come to and the places it has noted. -/
structure Thread where
  address : Nat
  slots : Slots
deriving DecidableEq, Repr

/-- The threads that reach a consuming or accepting instruction from those on the stack without
    consuming anything, in order of preference and at most one for each address.  `seen` has the
    bits of the addresses reached before, and every address is left at most once, so that
    `2 * size` steps beside one for each thread of the stack are enough fuel. -/
def expandWith (program : Program) (place : Nat) (prev next : Option Char) :
    (fuel seen : Nat) → List Thread → List Thread
  | 0, _, _ => []
  | _, _, [] => []
  | fuel + 1, seen, thread :: stack =>
    if seen.testBit thread.address then expandWith program place prev next fuel seen stack
    else
      let seen := seen ||| (1 <<< thread.address)
      let goOn := expandWith program place prev next fuel seen
      match program[thread.address]? with
      | none => goOn stack
      | some .accept => thread :: goOn stack
      | some (.consume _ _) => thread :: goOn stack
      | some (.jump target) => goOn ({ thread with address := target } :: stack)
      | some (.split first second) =>
        goOn ({ thread with address := first } :: { thread with address := second } :: stack)
      | some (.save slot target) =>
        goOn ({ address := target, slots := thread.slots.set slot (some place) } :: stack)
      | some (.check assertion target) =>
        if assertion.holds prev next then goOn ({ thread with address := target } :: stack)
        else goOn stack

/-- `expandWith` on as much fuel as it can use, nothing being seen yet. -/
def expand (program : Program) (place : Nat) (prev next : Option Char) (stack : List Thread) :
    List Thread :=
  expandWith program place prev next (stack.length + 2 * program.size + 1) 0 stack

/-- The threads that can take the character, each moved past it. -/
def takeChar (program : Program) (c : Char) (front : List Thread) : List Thread :=
  front.filterMap fun (thread : Thread) =>
    match program[thread.address]? with
    | some (.consume members target) =>
      if members.mem c then some { thread with address := target } else none
    | _ => none

/-- Has the thread come to the accepting instruction? -/
def Thread.accepts (program : Program) (thread : Thread) : Bool :=
  program[thread.address]? == some .accept

/-- The threads preferred to the first accepting one, and that one. -/
def cutAtAccept (program : Program) : List Thread → List Thread × Option Thread
  | [] => ([], none)
  | thread :: rest =>
    if thread.accepts program then ([], some thread)
    else
      let (ahead, won) := cutAtAccept program rest
      (thread :: ahead, won)

/-! ## §2. Running a front -/

/-- The slots of the preferred thread of the front that accepts now or later. -/
def follow (program : Program) : (rest : List Char) → (place : Nat) → (front : List Thread) →
    Option Slots
  | rest, place, front =>
    let (ahead, won) := cutAtAccept program front
    let won := won.map (·.slots.set 1 (some place))
    match rest with
    | [] => won
    | c :: rest =>
      match takeChar program c ahead with
      | [] => won
      | taken => follow program rest (place + 1)
          (expand program (place + 1) (some c) rest.head? taken) <|> won

/-- The thread of a match that starts at the place. -/
def Thread.fresh (blank : Slots) (place : Nat) : Thread :=
  { address := 0, slots := blank.set 0 (some place) }

/-- The slots of the first match at or after a place, where `taken` are the threads that came to
    it from earlier starts. -/
def scan (program : Program) (blank : Slots) : (rest : List Char) → (place : Nat) →
    (prev : Option Char) → (taken : List Thread) → Option Slots
  | rest, place, prev, taken =>
    let front := expand program place prev rest.head? (taken ++ [Thread.fresh blank place])
    match (cutAtAccept program front).2 with
    | some _ => follow program rest place front
    | none =>
      match rest with
      | [] => none
      | c :: rest => scan program blank rest (place + 1) (some c) (takeChar program c front)

end Reroute.Pattern
