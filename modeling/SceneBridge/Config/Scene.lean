import SceneBridge.SceneDescription
import SceneBridge.Toml.Decoder

/-!
# Scene descriptions in TOML

An entity has a `name`; its other fields may be left out, which leaves it at the origin, unscaled
and unturned. A family has a `family_id` and a list of `templates`.
-/

namespace SceneBridge

open Toml Decoder

def EntityDescription.decoder : Decoder EntityDescription := fun v => do
  let names :=
    ["name", "parent", "mirror", "prefab", "guid", "translation", "rotation", "scale"]
  let base := LocalTransform.identity
  match ← fields names v with
  | [name, parent, shared, prefab, guid, position, rotation, scale] =>
    let name ← required string name
    let parent ← maybe string parent
    let shared ← optional false boolean shared
    let prefab ← optional false boolean prefab
    let guid ← maybe (vector 4 uint32) guid
    let position ← optional base.position (vector 3 single) position
    let rotation ← optional base.rotation (vector 4 single) rotation
    let scale ← optional base.scale (vector 3 single) scale
    return { name, parent, shared, prefab, guid, transform := { position, rotation, scale } }
  | _ => throw "expected an entity"

def FamilyDescription.decoder : Decoder FamilyDescription := fun v => do
  match ← fields ["family_id", "templates"] v with
  | [familyId, templates] =>
    let familyId ← required int32 familyId
    let templates ← required (list string) templates
    return { familyId, templates }
  | _ => throw "expected a family"

def SceneDescription.decoder : Decoder SceneDescription := fun v => do
  match ← fields ["entities", "families"] v with
  | [entities, families] =>
    let entities ← optional [] (list EntityDescription.decoder) entities
    let families ← optional [] (list FamilyDescription.decoder) families
    return { entities, families }
  | _ => throw "expected a scene"

def SceneDescription.ofToml (text : String) : Except String SceneDescription :=
  document decoder text

end SceneBridge
