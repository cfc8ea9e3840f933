/-
Control flow.

Blocks that cannot be reached go.  An empty block that only passes control on is
bypassed.  A block that is the only successor of its only predecessor is
absorbed by it.
-/

import TensorGraph.Code.Syntax

namespace TensorGraph.Optimize

open Code

/-! ### Reachability -/

def successorsOf (function : Function) (id : BlockId) : List BlockId :=
  match function.block? id with
  | some block => (block.terminator?.map Terminator.successors).getD []
  | none => []

/-- The blocks reached from those in the queue, beside those seen already.  Every block
puts its successors into the queue once, which bounds the turns. -/
def reach (function : Function) : Nat → List BlockId → List BlockId → List BlockId
  | 0, _, seen => seen
  | _, [], seen => seen
  | turns + 1, id :: queue, seen =>
      if seen.contains id then
        reach function turns queue seen
      else
        reach function turns (queue ++ successorsOf function id) (id :: seen)

def reachable (function : Function) : List BlockId :=
  match function.entry? with
  | none => []
  | some entry => reach function (2 * function.blocks.length + 2) [entry] []

/-- Removes the blocks that cannot be reached, and says whether there were any. -/
def removeUnreachable (function : Function) : Function × Bool :=
  let live := reachable function
  let kept := function.blocks.filter fun block => live.contains block.id
  ({ function with blocks := kept }, kept.length != function.blocks.length)

/-! ### Forwarders -/

/-- The empty blocks that only pass control on, with their targets.  The entry is none
of them, nor is a block that jumps to itself. -/
def forwarders (function : Function) : List (BlockId × BlockId) :=
  function.blocks.filterMap fun block =>
    if some block.id != function.entry? && block.instructions.isEmpty then
      match block.terminator? with
      | some (.jump target) => if target = block.id then none else some (block.id, target)
      | _ => none
    else
      none

def leadsTo (forwarder : BlockId) (block : Block) : Bool :=
  block.id != forwarder &&
    ((block.terminator?.map Terminator.successors).getD []).contains forwarder

/-- Every way through one forwarder led past it. -/
def bypass (blocks : List Block) (forwarder target : BlockId) : List Block :=
  blocks.map fun block =>
    if leadsTo forwarder block then
      { block with terminator? := block.terminator?.map (Terminator.retarget forwarder target) }
    else
      block

/-- Leads control past all forwarders in turn, and says whether any way changed. -/
def threadForwarders (function : Function) : Function × Bool :=
  let (blocks, changed) :=
    (forwarders function).foldl (fun (blocks, changed) (forwarder, target) =>
        (bypass blocks forwarder target, changed || blocks.any (leadsTo forwarder)))
      (function.blocks, false)
  ({ function with blocks := blocks }, changed)

/-! ### Chains -/

/-- How often a block is the target of a branch. -/
def predecessorCount (function : Function) (id : BlockId) : Nat :=
  (function.blocks.flatMap fun block =>
    (block.terminator?.map Terminator.successors).getD []).count id

/-- The first block that jumps to a block of which it is the only predecessor. -/
def chain? (function : Function) : Option (BlockId × BlockId) :=
  function.blocks.findSome? fun block =>
    match block.terminator? with
    | some (.jump target) =>
        if target != block.id && some target != function.entry? &&
            predecessorCount function target == 1 then
          some (block.id, target)
        else
          none
    | _ => none

def absorb (id : BlockId) (absorbed : Block) : List Block → List Block
  | [] => []
  | block :: rest =>
      if block.id = id then
        { block with
          instructions := block.instructions ++ absorbed.instructions
          terminator? := absorbed.terminator? } :: rest
      else
        block :: absorb id absorbed rest

theorem length_absorb (id : BlockId) (absorbed : Block) (blocks : List Block) :
    (absorb id absorbed blocks).length = blocks.length := by
  induction blocks with
  | nil => rfl
  | cons block rest ih =>
      rw [absorb]
      split
      · rfl
      · simp [ih]

/-- Absorbs blocks as long as there is a chain, and says whether there was one. -/
def mergeChains (function : Function) : Function × Bool :=
  match chain? function with
  | none => (function, false)
  | some (predecessor, successor) =>
      match _found : function.blocks.findIdx? fun block => block.id == successor with
      | none => (function, false)
      | some position =>
          match function.blocks[position]? with
          | none => (function, false)
          | some absorbed =>
              let merged :=
                { function with
                  blocks := absorb predecessor absorbed (function.blocks.eraseIdx position) }
              ((mergeChains merged).1, true)
termination_by function.blocks.length
decreasing_by
  have within : position < function.blocks.length := by
    have := List.findIdx?_eq_some_iff_findIdx_eq.mp _found
    omega
  simp only [length_absorb, List.length_eraseIdx, if_pos within]
  omega

/-- Simplifies control flow, and says whether anything changed. -/
def simplifyControlFlow (function : Function) : Function × Bool :=
  let (function, removed) := removeUnreachable function
  let (function, threaded) := threadForwarders function
  let function := if threaded then (removeUnreachable function).1 else function
  let (function, merged) := mergeChains function
  (function, removed || threaded || merged)

end TensorGraph.Optimize
