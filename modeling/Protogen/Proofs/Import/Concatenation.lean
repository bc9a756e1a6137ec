import Protogen.Proofs.Import.Idempotence

/-!
# Texts put together

The lines of a text are resolved one by one, and none of them is seen by the others. So two texts of
which the first ends where a line does are resolved together as each of them is.

* `resolveText_append_of_lines` is the law wherever the lines of the whole are those of the parts.
* `resolveText_append` is its case of a first text that is empty or closes with a line feed.
-/

set_option autoImplicit false

namespace Protogen.Import.Resolver

open Text

variable {r : Resolver} {directory : Path} {a b : String}

/-- Where no line goes on from one text to the next, both are resolved one after the other. -/
theorem resolveText_append_of_lines (h : lines (a ++ b).toList = lines a.toList ++ lines b.toList) :
    r.resolveText directory (a ++ b) =
      (do
        let x ← r.resolveText directory a
        let y ← r.resolveText directory b
        pure (x ++ y)) := by
  unfold resolveText
  rw [h, List.mapM_append]
  cases (lines a.toList).mapM (r.resolveLine directory) with
  | error failure => rfl
  | ok first =>
    cases (lines b.toList).mapM (r.resolveLine directory) with
    | error failure => rfl
    | ok second =>
      have htext : String.ofList (unlines (first ++ second)) =
          String.ofList (unlines first) ++ String.ofList (unlines second) := by
        rw [unlines, List.flatMap_append, String.ofList_append]
        rfl
      exact congrArg Except.ok htext

/-- No line goes on behind a text that is empty or closes with a line feed. -/
theorem lines_append_of_fed (ha : a = "" ∨ IsFed a) (b : String) :
    lines (a ++ b).toList = lines a.toList ++ lines b.toList := by
  rw [String.toList_append]
  rcases ha with rfl | hfed
  · rfl
  · exact lines_append_of_isFed hfed _

/-- Behind a text that is empty or closes with a line feed, another text is resolved for itself: both
together cannot be resolved if and only if one of them cannot, and fail as the first that does.
Otherwise the result is that of the first and then that of the second. -/
theorem resolveText_append (r : Resolver) (directory : Path) {a : String} (b : String)
    (ha : a = "" ∨ IsFed a) :
    ((∃ failure, r.resolveText directory (a ++ b) = .error failure) ↔
        (∃ failure, r.resolveText directory a = .error failure) ∨
          ∃ failure, r.resolveText directory b = .error failure) ∧
      (∀ failure, r.resolveText directory a = .error failure →
        r.resolveText directory (a ++ b) = .error failure) ∧
      (∀ x failure, r.resolveText directory a = .ok x →
        r.resolveText directory b = .error failure →
          r.resolveText directory (a ++ b) = .error failure) ∧
      ∀ x y, r.resolveText directory a = .ok x → r.resolveText directory b = .ok y →
        r.resolveText directory (a ++ b) = .ok (x ++ y) := by
  rw [resolveText_append_of_lines (lines_append_of_fed ha b)]
  cases hfirst : r.resolveText directory a with
  | error failure => simp [bind, Except.bind]
  | ok x =>
    cases hsecond : r.resolveText directory b with
    | error failure => simp [bind, Except.bind]
    | ok y => simp [bind, Except.bind, pure, Except.pure]

/-- The import of a missing file in a line that a pair of characters ends. -/
def fedImport : String := "let any = require('./google/protobuf/any_pb.js');\r\n"

/-- Behind it another one, and one that is not terminated. -/
theorem resolveText_append_fedImport :
    IsFed fedImport ∧
      sampleResolver.resolveText (Path.read "test") (fedImport ++ fedImport) =
        .ok ("let any = require('google-protobuf/google/protobuf/any_pb.js');\r\n" ++
          "let any = require('google-protobuf/google/protobuf/any_pb.js');\r\n") ∧
      ∃ failure, sampleResolver.resolveText (Path.read "test")
        (fedImport ++ "let b = require('./b") = .error failure := by
  have hfed : IsFed fedImport := by
    unfold IsFed
    decide +kernel
  have hfirst : sampleResolver.resolveText (Path.read "test") fedImport =
      .ok "let any = require('google-protobuf/google/protobuf/any_pb.js');\r\n" := by
    decide +kernel
  have hopen : ∃ failure, sampleResolver.resolveText (Path.read "test") "let b = require('./b" =
      .error failure := ⟨_, rfl⟩
  obtain ⟨-, -, -, htwice⟩ := resolveText_append sampleResolver (Path.read "test") fedImport
    (.inr hfed)
  obtain ⟨hfails, -⟩ := resolveText_append sampleResolver (Path.read "test") "let b = require('./b"
    (.inr hfed)
  exact ⟨hfed, htwice _ _ hfirst hfirst, hfails.2 (.inr hopen)⟩

end Protogen.Import.Resolver
