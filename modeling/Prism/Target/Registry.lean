import Prism.Target.Catalog

namespace Prism

structure Registry where
  targets : List Target
  distinct : (targets.map (·.id)).Nodup

inductive RegistryError where
  | duplicate (id : String)
  | unknown (id : String)
  deriving DecidableEq, Repr

def RegistryError.message : RegistryError → String
  | .duplicate id => "Duplicate target id '" ++ id ++ "'"
  | .unknown id => "Unknown compilation target '" ++ id ++ "'"

namespace Registry

/-- The first id that stood in the list before. -/
def repeated? (seen : List String) : List String → Option String
  | [] => none
  | id :: ids => if seen.contains id then some id else repeated? (id :: seen) ids

/-- A registry of targets with distinct ids. -/
def ofTargets (targets : List Target) : Except RegistryError Registry :=
  if distinct : (targets.map (·.id)).Nodup then .ok ⟨targets, distinct⟩
  else .error (.duplicate ((repeated? [] (targets.map (·.id))).getD ""))

def builtin : Registry where
  targets := Catalog.targets
  distinct := by decide

/-- An empty registry stands for the built-in targets. -/
def orBuiltin (registry : Registry) : Registry :=
  if registry.targets.isEmpty then builtin else registry

def find? (registry : Registry) (id : String) : Option Target :=
  registry.targets.find? (·.id = id)

def get (registry : Registry) (id : String) : Except RegistryError Target :=
  match registry.find? id with
  | some target => .ok target
  | none => .error (.unknown id)

def contains (registry : Registry) (id : String) : Bool :=
  (registry.find? id).isSome

/-- The place of a target in the registry, from zero. -/
def position (registry : Registry) (id : String) : Except RegistryError Nat :=
  match registry.targets.findIdx? (·.id = id) with
  | some place => .ok place
  | none => .error (.unknown id)

/-- The targets with these ids in the order asked for, each once; all targets when none is asked
for. -/
def select (registry : Registry) (ids : List String) : Except RegistryError (List Target) :=
  if ids.isEmpty then .ok registry.targets
  else do
    let chosen ← ids.mapM registry.get
    return chosen.foldl (fun before target =>
      if before.any (·.id = target.id) then before else before ++ [target]) []

def platforms (registry : Registry) : List Platform :=
  (registry.targets.map (·.platform)).eraseDups

def frameworks (registry : Registry) : List Framework :=
  (registry.targets.map (·.framework)).eraseDups

def languages (registry : Registry) : List Language :=
  (registry.targets.map (·.language)).eraseDups

end Registry

end Prism
