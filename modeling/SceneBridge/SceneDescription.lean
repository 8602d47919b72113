import SceneBridge.World

/-!
# Scene descriptions

A description lists named entities and template families. `spawnInto` creates them in a world:
first every entity, then the links to parents, which may be declared after their children, then one
holder for each family. It stops at the first fault and leaves in the world what it had created.
-/

namespace SceneBridge

structure EntityDescription where
  name : String
  parent : Option String := none
  shared : Bool := false
  prefab : Bool := false
  guid : Option (Vector UInt32 4) := none
  transform : LocalTransform := LocalTransform.identity

/-- A list of templates, by name, that the guest may instantiate. -/
structure FamilyDescription where
  familyId : Int32
  templates : List String

structure SceneDescription where
  entities : List EntityDescription := []
  families : List FamilyDescription := []

/-- Entities by name, in order of declaration. -/
abbrev NamedEntities := List (String × Entity)

namespace EntityDescription

variable {κ : Type} [ProjectKind κ]

/-- The components an entity has before it is linked to its parent. -/
def components (d : EntityDescription) : List (Component κ) :=
  [⟨.name, d.name⟩, ⟨.localTransform, d.transform⟩]
    ++ (if d.shared then [⟨.shareRequest, ()⟩] else [])
    ++ (if d.prefab then [⟨.prefab, ()⟩] else [])
    ++ (match d.guid with
        | some hash => [⟨.guid, ⟨hash⟩⟩]
        | none => [])

end EntityDescription

namespace SceneDescription

variable {κ : Type} [ProjectKind κ]

def resolve (named : NamedEntities) (name : String) : Except SceneError Entity :=
  match named.lookup name with
  | some e => .ok e
  | none => .error (.unknownName name)

/-- Create the described entities, collecting them by name. -/
def declare (w : World κ) (named : NamedEntities) :
    List EntityDescription → Except SceneError NamedEntities × World κ
  | [] => (.ok named, w)
  | d :: ds =>
    match named.lookup d.name with
    | some _ => (.error (.duplicateName d.name), w)
    | none =>
      let (e, w) := w.spawnWith d.components
      declare w (named ++ [(d.name, e)]) ds

def link (w : World κ) (named : NamedEntities) (d : EntityDescription) :
    Except SceneError (World κ) := do
  match d.parent with
  | none => return w
  | some name =>
    let parent ← resolve named name
    let e ← resolve named d.name
    w.insert e .parent parent

def linkAll (w : World κ) (named : NamedEntities) :
    List EntityDescription → Except SceneError Unit × World κ
  | [] => (.ok (), w)
  | d :: ds =>
    match link w named d with
    | .ok w => linkAll w named ds
    | .error err => (.error err, w)

def holdFamilies (w : World κ) (named : NamedEntities) :
    List FamilyDescription → Except SceneError Unit × World κ
  | [] => (.ok (), w)
  | f :: fs =>
    match f.templates.mapM (resolve named) with
    | .ok templates =>
      let (_, w) := w.spawnWith [⟨.templateFamily, ⟨f.familyId, templates⟩⟩]
      holdFamilies w named fs
    | .error err => (.error err, w)

def logTarget : String := "void_scene::scene"

def spawnInto (d : SceneDescription) (w : World κ) :
    Logged (Except SceneError NamedEntities × World κ) :=
  match declare w [] d.entities with
  | (.error err, w) => pure (.error err, w)
  | (.ok named, w) =>
    match linkAll w named d.entities with
    | (.error err, w) => pure (.error err, w)
    | (.ok (), w) =>
      match holdFamilies w named d.families with
      | (.error err, w) => pure (.error err, w)
      | (.ok (), w) => do
        let entities := d.entities.length
        let families := d.families.length
        Logged.write .debug logTarget
          s!"Spawned scene with {entities} entities and {families} template families"
        return (.ok named, w)

end SceneDescription

end SceneBridge
