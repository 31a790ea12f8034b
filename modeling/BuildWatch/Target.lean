import BuildWatch.Path

/-! What a watch builds: a working directory, and a configuration file relative to it. Changes are
given field by field, and a field may be kept, cleared or set. -/

namespace BuildWatch

inductive Change (α : Type) where
  | keep
  | clear
  | set (value : α)
  deriving DecidableEq, Inhabited

namespace Change

/-- A setting that has been read anew: what is not there any more is cleared. -/
def ofSetting : Option α → Change α
  | some value => set value
  | none => clear

def apply : Change α → Option α → Option α
  | keep, held => held
  | clear, _ => none
  | set value, _ => some value

end Change

structure Target where
  workingDirectory : Option Path := none
  configFile : Option Path := none
  deriving DecidableEq, Inhabited

structure TargetChange where
  workingDirectory : Change Path := .keep
  configFile : Change Path := .keep
  deriving DecidableEq, Inhabited

namespace Target

def equivalentPaths : Option Path → Option Path → Bool
  | none, none => true
  | some a, some b => a.equivalent b
  | _, _ => false

/-- Spelling apart, the same target. -/
def equivalent (a b : Target) : Bool :=
  equivalentPaths a.workingDirectory b.workingDirectory && equivalentPaths a.configFile b.configFile

def change (target : Target) (change : TargetChange) : Target where
  workingDirectory := change.workingDirectory.apply target.workingDirectory
  configFile := change.configFile.apply target.configFile

end Target

end BuildWatch
