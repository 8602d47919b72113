import SceneBridge.Component
import SceneBridge.Wire.Snapshot

/-!
# A small gameplay project

A project with two kinds of scene component, health and team, and one component set of three kinds
that it sends to its guest. A record of the set is a tag and one word.
-/

namespace SceneBridge

open Wire

inductive GameplayKind
  | health
  | team
deriving DecidableEq

instance : ProjectKind GameplayKind where
  decEq := inferInstance
  Value
    | .health => Single
    | .team => Int32
  label
    | .health => "Health"
    | .team => "Team"

/-- What the gameplay project tells its guest about an entity. -/
inductive Gameplay
  | health (points : Single)
  | team (number : Int32)
  | flag
deriving DecidableEq

structure GameplayRecord where
  tag : UInt8
  word : UInt32
deriving DecidableEq

namespace Gameplay

def tag : Gameplay → UInt8
  | health _ => 0
  | team _ => 1
  | flag => 2

def toRaw (g : Gameplay) : GameplayRecord :=
  match g with
  | health points => ⟨0, points.bits⟩
  | team number => ⟨1, number.toUInt32⟩
  | flag => ⟨2, 0⟩

def ofRaw (r : GameplayRecord) : Except CodecError Gameplay :=
  match r.tag with
  | 0 => .ok (health ⟨r.word⟩)
  | 1 => .ok (team r.word.toInt32)
  | 2 => .ok flag
  | tag => .error (.unknownKind tag)

instance : ComponentSet Gameplay where
  Raw := GameplayRecord
  kindCount := 3
  tag := tag
  toRaw := toRaw
  rawTag := GameplayRecord.tag
  ofRaw := ofRaw

instance : LawfulComponentSet Gameplay where
  ofRaw_toRaw c := by cases c <;> simp [ComponentSet.ofRaw, ComponentSet.toRaw, toRaw, ofRaw]
  rawTag_toRaw c := by cases c <;> rfl
  tag_lt c := by cases c <;> simp [ComponentSet.tag, ComponentSet.kindCount, tag]

end Gameplay

end SceneBridge
