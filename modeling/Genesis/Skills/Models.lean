import Genesis.Lib.Text
import Genesis.Lib.Tree
import Genesis.Context.Models

/-!
# Skill packages

The models of the skill loader: the definition a manifest contains, references,
descriptors, loaded skills, and the failures of packages and of the runtime.  A
package is named by its path below the packages root.
-/

namespace Genesis

open Py FileTree

/-! ## Identity -/

/-- `[0-9A-Za-z.-]+`. -/
def isVersionTag (tag : List Char) : Bool :=
  !tag.isEmpty && tag.all fun c => c.isAlphanum || c = '.' || c = '-'

/-- The pattern of a `skill_version`. -/
def IsSkillVersion (s : String) : Prop :=
  let core := s.toList.span fun c => isDecimal c || c = '.'
  let tags := core.2.span fun c => c ≠ '+'
  let numerals := core.1.splitOn '.'
  numerals.length = 3 ∧ (numerals.all fun digits => !digits.isEmpty && digits.all isDecimal) ∧
    (tags.1 = [] ∨ tags.1.head? = some '-' ∧ isVersionTag tags.1.tail) ∧
    (tags.2 = [] ∨ isVersionTag tags.2.tail)

instance decidableIsSkillVersion (s : String) : Decidable (IsSkillVersion s) :=
  inferInstanceAs (Decidable (_ ∧ _ ∧ _ ∧ _))

structure SkillReference where
  skillId : String
  skillVersion : String
  wellFormed : IdLength skillId ∧ IsSkillVersion skillVersion := by decide +kernel
  deriving DecidableEq

/-! ## Definitions -/

structure SkillDefinitionFields where
  skillId : String
  skillVersion : String
  name : String
  description : String
  purpose : String := ""
  whenToUse : List String := []
  inputSchemaRef : String
  outputSchemaRef : String
  procedure : List String := []
  requiredToolIds : List String := []
  permissionRefs : List String := []
  scopeRefs : List String := []
  evidenceRequirements : List String := []
  restrictions : List String := []
  failureModes : List String := []
  escalation : List String := []
  evaluation : List String := []
  deriving DecidableEq

abbrev SkillDefinitionFields.WellFormed (s : SkillDefinitionFields) : Prop :=
  (IdLength s.skillId ∧ IsSkillVersion s.skillVersion) ∧ 1 ≤ s.name.length ∧
    1 ≤ s.description.length

structure SkillDefinition extends SkillDefinitionFields where
  wellFormed : toSkillDefinitionFields.WellFormed := by decide +kernel
  deriving DecidableEq

namespace SkillDefinition

def keys : List String :=
  ["skill_id", "skill_version", "name", "description", "purpose", "when_to_use",
    "input_schema_ref", "output_schema_ref", "procedure", "required_tool_ids", "permission_refs",
    "scope_refs", "evidence_requirements", "restrictions", "failure_modes", "escalation",
    "evaluation"]

/-- `SkillDefinition.model_validate`. -/
def modelValidate (raw : JsonObject) : Except PyException SkillDefinition := do
  let model := "SkillDefinition"
  forbidExtra model keys raw
  let skillId ← strField model raw "skill_id"
  let skillVersion ← strField model raw "skill_version"
  let name ← strField model raw "name"
  let description ← strField model raw "description"
  let purpose ← match raw.get? "purpose" with
    | none => pure ""
    | some _ => strField model raw "purpose"
  let whenToUse ← strTupleField model raw "when_to_use" (some [])
  let inputSchemaRef ← strField model raw "input_schema_ref"
  let outputSchemaRef ← strField model raw "output_schema_ref"
  let procedure ← strTupleField model raw "procedure" (some [])
  let requiredToolIds ← strTupleField model raw "required_tool_ids" (some [])
  let permissionRefs ← strTupleField model raw "permission_refs" (some [])
  let scopeRefs ← strTupleField model raw "scope_refs" (some [])
  let evidenceRequirements ← strTupleField model raw "evidence_requirements" (some [])
  let restrictions ← strTupleField model raw "restrictions" (some [])
  let failureModes ← strTupleField model raw "failure_modes" (some [])
  let escalation ← strTupleField model raw "escalation" (some [])
  let evaluation ← strTupleField model raw "evaluation" (some [])
  let fields : SkillDefinitionFields :=
    { skillId, skillVersion, name, description, purpose, whenToUse, inputSchemaRef,
      outputSchemaRef, procedure, requiredToolIds, permissionRefs, scopeRefs,
      evidenceRequirements, restrictions, failureModes, escalation, evaluation }
  construct model fun wellFormed : fields.WellFormed => ⟨fields, wellFormed⟩

/-- `(skill_id, skill_version)` as a reference. -/
def reference (specification : SkillDefinition) : SkillReference where
  skillId := specification.skillId
  skillVersion := specification.skillVersion
  wellFormed := specification.wellFormed.1

end SkillDefinition

/-- A discovery result, without instructions. -/
structure SkillDescriptor where
  specification : SkillDefinition
  packagePath : Path
  deriving DecidableEq

/-- `descriptor.reference`. -/
def SkillDescriptor.reference (descriptor : SkillDescriptor) : SkillReference :=
  descriptor.specification.reference

structure SkillDataFile where
  relativePath : String
  content : String
  deriving DecidableEq

structure LoadedSkill where
  specification : SkillDefinition
  instructions : String
  packagePath : Path
  dataFiles : List SkillDataFile := []
  instructions_nonempty : 1 ≤ instructions.length

/-! ## Failures -/

inductive SkillFailureCode : Type
  | invalidManifest
  | missingPackage
  | missingInstructions
  | unauthorized
  | versionMismatch
  | noRelevantSkill
  | requiredToolUnavailable
  | loadLimitExceeded
  deriving DecidableEq

structure SkillPackageError where
  code : SkillFailureCode
  message : String
  skillId : Option String := none
  deriving DecidableEq

/-- What the skill runtime raises: a package failure, or any other exception. -/
inductive SkillException : Type
  | package (error : SkillPackageError)
  | python (exc : PyException)
  deriving DecidableEq

end Genesis
