import Protogen.Field.Parsing
import Protogen.Proofs.Code.Outcome

/-!
# Outcomes of the code of a field

Whether there is code for a field is up to the field and the registry, whatever was written
before: `isDetermined_generate`. No assumption is made on the field.
-/

set_option autoImplicit false

namespace Protogen

open Code

variable {kind : ValueKind} {value template raw : String} {body : Emission Unit}

theorem isDetermined_nullGuard (h : IsDetermined body) :
    IsDetermined (nullGuard kind value template body) := by
  unfold nullGuard
  split
  · -- the template decides before the alternative is entered
    cases Template.fill template "null" with
    | error cause => exact ⟨_, Yields.within ((Yields.demand (.error (.template cause))).bind_error)⟩
    | ok text => exact IsDetermined.ifElse h
  · exact h

namespace FieldToParse

variable {f : FieldToParse} {registry : Registry}

theorem isDetermined_merge : IsDetermined (merge template value) := by
  unfold merge
  exact (IsDetermined.demand _).bind fun text => .line text

theorem isDetermined_convert : IsDetermined (convert kind raw registry) := by
  unfold convert
  exact (IsDetermined.demand _).bind fun parsed =>
    (IsDetermined.lines parsed.code).bind fun _ => .pure parsed.value

theorem isDetermined_mergeParsed : IsDetermined (f.mergeParsed raw registry) := by
  unfold mergeParsed
  refine (IsDetermined.demand _).bind fun kind => (IsDetermined.demand _).bind fun template => ?_
  apply isDetermined_nullGuard
  exact isDetermined_convert.bind fun value => isDetermined_merge

theorem isDetermined_generateSingular : IsDetermined (f.generateSingular registry) := by
  unfold generateSingular
  exact (IsDetermined.demand _).bind fun raw => isDetermined_mergeParsed.within

theorem isDetermined_generateRepeated : IsDetermined (f.generateRepeated registry) := by
  unfold generateRepeated
  exact (IsDetermined.demand _).bind fun raw => isDetermined_mergeParsed.within.within

theorem isDetermined_generateMap : IsDetermined (f.generateMap registry) := by
  unfold generateMap
  refine (IsDetermined.demand _).bind fun raw => (IsDetermined.demand _).bind fun kind =>
    (IsDetermined.demand _).bind fun keyKind => (IsDetermined.demand _).bind fun key => ?_
  apply IsDetermined.within
  apply IsDetermined.within
  apply IsDetermined.within
  refine (IsDetermined.lines key.code).bind fun _ => isDetermined_convert.bind fun value => ?_
  exact (IsDetermined.demand _).bind fun template => isDetermined_merge

/-- Whether there is code for a field does not depend on what was written before. -/
theorem isDetermined_generate : IsDetermined (f.generate registry) := by
  unfold generate
  refine (IsDetermined.demand _).bind fun shape => ?_
  cases shape with
  | map => exact isDetermined_generateMap
  | repeated => exact isDetermined_generateRepeated
  | singular => exact isDetermined_generateSingular

end FieldToParse

end Protogen
