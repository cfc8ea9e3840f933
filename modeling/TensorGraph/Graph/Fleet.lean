/-
Maps side by side.

From a map others are made: copies, refined copies, copies read back from an
archive, and code.  They are used in any order.  Those that run on the host
stand in one heap; code has memory of its own.
-/

import TensorGraph.Graph.Compile
import TensorGraph.Graph.Hosted

namespace TensorGraph

/-- How a map is made from another one. -/
inductive Derivation where
  | clone
  | refine (passes : Nat)
  | reload (registry : Registry)
  | compile (options : CompilerOptions)

inductive Instance where
  | hosted (map : HostedMap)
  | compiled (map : CompiledMap)

namespace HostedMap

def derive (hosted : HostedMap) : Derivation → Action Heap Instance
  | .clone => Instance.hosted <$> hosted.clone
  | .refine passes => Instance.hosted <$> hosted.refine passes
  | .reload registry => Instance.hosted <$> hosted.reload registry
  | .compile options => fun heap =>
      match (hosted.current heap).compile options with
      | .ok compiled => .ok (.compiled compiled) heap
      | .error fault => .error fault heap

def call (hosted : HostedMap) : Map.Call → Action Heap (List (List Float))
  | .compute rows => hosted.compute rows
  | .reset => do
      hosted.reset
      return []

end HostedMap

namespace CompiledMap

def call : Map.Call → Action CompiledMap (List (List Float))
  | .compute rows => compute rows
  | .reset => do
      reset
      return []

/-- What some calls answer. -/
def answers (map : CompiledMap) : List Map.Call → List (Except Fault (List (List Float)))
  | [] => []
  | request :: rest =>
      Action.outcome (call request map) :: (Action.last (call request map)).answers rest

end CompiledMap

/-- An instance taken out of the heap, with what it remembers at the moment. -/
inductive Portrait where
  | host (map : Map)
  | code (map : CompiledMap)

namespace Portrait

/-- What a call answers, with the instance behind it. -/
def call (request : Map.Call) : Portrait → Except Fault (List (List Float)) × Portrait
  | host map => (map.answer request, host (map.next request))
  | code map =>
      let result := CompiledMap.call request map
      (Action.outcome result, code (Action.last result))

def answers : Portrait → List Map.Call → List (Except Fault (List (List Float)))
  | host map, calls => map.answers calls
  | code map, calls => map.answers calls

end Portrait

/-- What is made from a map by itself. -/
def Map.derive (map : Map) : Derivation → Except Fault Portrait
  | .clone => .ok (.host map)
  | .refine passes => (map.refine passes).mapError .error |>.map .host
  | .reload registry => (ofArchive registry map.archive).mapError .error |>.map .host
  | .compile options => (map.compile options).map .code

namespace Instance

def portrait (heap : Heap) : Instance → Portrait
  | hosted map => .host (map.current heap)
  | compiled map => .code map

/-- What a call answers, with the heap and the instance behind it. -/
def call (request : Map.Call) (heap : Heap) :
    Instance → Except Fault (List (List Float)) × Heap × Instance
  | hosted map =>
      let result := map.call request heap
      (Action.outcome result, Action.last result, hosted map)
  | compiled map =>
      let result := CompiledMap.call request map
      (Action.outcome result, heap, compiled (Action.last result))

end Instance

structure Fleet where
  heap : Heap
  instances : List Instance

/-- Members are named in the order in which they were made. -/
inductive Command where
  | derive (source : Nat) (how : Derivation)
  | call (member : Nat) (request : Map.Call)

namespace Command

/-- The call, if it is one on this member. -/
def callOn? (member : Nat) : Command → Option Map.Call
  | call other request => if other = member then some request else none
  | derive _ _ => none

/-- The calls on one member. -/
def callsOn (member : Nat) (commands : List Command) : List Map.Call :=
  commands.filterMap (callOn? member)

end Command

namespace Fleet

/-- The fleet of one map. -/
def start (map : Map) : Except Fault Fleet :=
  match HostedMap.settle map Heap.empty with
  | .ok hosted heap =>
      .ok
        { heap := heap
          instances := [.hosted hosted] }
  | .error fault _ => .error fault

/-- A new member; a derivation that fails adds none.  Nothing is made from code. -/
def derive (fleet : Fleet) (source : Nat) (how : Derivation) : Fleet :=
  match fleet.instances[source]? with
  | some (.hosted map) =>
      match map.derive how fleet.heap with
      | .ok made heap =>
          { heap := heap
            instances := fleet.instances ++ [made] }
      | .error _ heap => { fleet with heap := heap }
  | _ => fleet

def call (fleet : Fleet) (member : Nat) (request : Map.Call) : Fleet :=
  match fleet.instances[member]? with
  | some used =>
      let (_, heap, used) := used.call request fleet.heap
      { heap := heap
        instances := fleet.instances.set member used }
  | none => fleet

def next (fleet : Fleet) : Command → Fleet
  | .derive source how => fleet.derive source how
  | .call member request => fleet.call member request

def after (fleet : Fleet) (commands : List Command) : Fleet :=
  commands.foldl next fleet

/-- What a member answers to the calls on it, with all other commands in between. -/
def replies (fleet : Fleet) (member : Nat) :
    List Command → List (Except Fault (List (List Float)))
  | [] => []
  | command :: rest =>
      let later := (fleet.next command).replies member rest
      match command.callOn? member, fleet.instances[member]? with
      | some request, some used => (used.call request fleet.heap).1 :: later
      | _, _ => later

end Fleet
end TensorGraph
