import SceneBridge.Entity

/-!
# Scene errors

Why a change to the scene, or the reading of a scene description, is refused.
-/

namespace SceneBridge

inductive SceneError
  /-- The handle is dead or was never issued. -/
  | entityNotFound (entity : Entity)
  /-- The entity to instantiate is dead. -/
  | templateNotFound (template : Entity)
  /-- A description refers to a name that it never declares. -/
  | unknownName (name : String)
  /-- A description declares a name twice. -/
  | duplicateName (name : String)
deriving DecidableEq

def SceneError.label : SceneError → String
  | entityNotFound _ => "EntityNotFound"
  | templateNotFound _ => "TemplateNotFound"
  | unknownName _ => "UnknownName"
  | duplicateName _ => "DuplicateName"

def SceneError.message : SceneError → String
  | entityNotFound e => s!"Entity {e.describe} not found"
  | templateNotFound e => s!"Template {e.describe} not found"
  | unknownName name => "Unknown entity name '" ++ name ++ "' in scene description"
  | duplicateName name => "Entity name '" ++ name ++ "' declared more than once"

end SceneBridge
