/-
What is done to a template set in the course of its life, short of a change of its loader or its table of tags.

Components are registered one by one or by directory, passes are added, the cache is emptied, and templates are
compiled and rendered, in any order. An operation that fails still leaves a set behind: `Operation.apply` is that set.
-/
import Templating.Template.Render
import Templating.TemplateSet

namespace Templating

/-- the template that is asked for: that of a name, or that of a source that comes from no file -/
inductive Request where
  | file (name : String)
  | text (source : String)
  deriving DecidableEq, Repr

namespace TemplateSet

/-- the template of a request, and the set behind its compilation -/
def obtain (s : TemplateSet) : Request → Except TemplateError Template × TemplateSet
  | .file name => s.fromFile name
  | .text source => s.fromString source

/-- the page of a request, and the set behind it -/
def render (s : TemplateSet) (request : Request) (data : Data) : Except TemplateError String × TemplateSet :=
  match s.obtain request with
  | (.ok t, s) => (t.render data, s)
  | (.error e, s) => (.error e, s)

end TemplateSet

/-- something that is done to a template set -/
inductive Operation where
  | register (c : Component)
  | registerDirectory (dir lead : String)
  | addPass (pass : Pass)
  | clearCache
  | obtain (request : Request)
  | render (request : Request) (data : Data)

/-- the set behind an operation, whether it failed or not -/
def Operation.apply (s : TemplateSet) : Operation → TemplateSet
  | register c => s.register c
  | registerDirectory dir lead => (s.registerDirectory dir lead).2
  | addPass pass => s.addPass pass
  | clearCache => s.clearCache
  | obtain request => (s.obtain request).2
  | render request data => (s.render request data).2

/-- the set behind operations -/
def TemplateSet.after (s : TemplateSet) (ops : List Operation) : TemplateSet :=
  ops.foldl Operation.apply s

namespace Operation

theorem after_cons (s : TemplateSet) (op : Operation) (ops : List Operation) :
    s.after (op :: ops) = (op.apply s).after ops := rfl

/-- rendering leaves the set that compiling leaves -/
theorem render_set (s : TemplateSet) (request : Request) (data : Data) :
    (s.render request data).2 = (s.obtain request).2 := by
  unfold TemplateSet.render
  rcases s.obtain request with ⟨_ | _, _⟩ <;> rfl

/-- an operation compiles something, which touches the cache alone, or it empties the cache -/
theorem apply_cases (s : TemplateSet) (op : Operation) :
    (∃ request, op.apply s = (s.obtain request).2) ∨
      ∃ registry passes, op.apply s = { s with registry, passes, cache := .empty } := by
  cases op with
  | register c => exact Or.inr ⟨_, _, rfl⟩
  | registerDirectory dir lead =>
    simp only [apply, TemplateSet.registerDirectory]
    cases s.loader.list (String.ofList (Path.trimSlashes dir.toList)) with
    | ok files => exact Or.inr ⟨_, _, rfl⟩
    | error fault => exact Or.inr ⟨_, _, rfl⟩
  | addPass pass => exact Or.inr ⟨_, _, rfl⟩
  | clearCache => exact Or.inr ⟨_, _, rfl⟩
  | obtain request => exact Or.inl ⟨request, rfl⟩
  | render request data => exact Or.inl ⟨request, render_set s request data⟩

/-- compiling touches nothing of a set but its cache -/
theorem obtain_set (s : TemplateSet) (request : Request) :
    ∃ cache, (s.obtain request).2 = { s with cache } := by
  cases request with
  | file name => exact ⟨_, rfl⟩
  | text source => exact ⟨_, rfl⟩

theorem apply_tags (s : TemplateSet) (op : Operation) : (op.apply s).tags = s.tags := by
  rcases apply_cases s op with ⟨request, h⟩ | ⟨registry, passes, h⟩
  · obtain ⟨cache, hset⟩ := obtain_set s request
    rw [h, hset]
  · rw [h]

theorem apply_options (s : TemplateSet) (op : Operation) : (op.apply s).options = s.options := by
  rcases apply_cases s op with ⟨request, h⟩ | ⟨registry, passes, h⟩
  · obtain ⟨cache, hset⟩ := obtain_set s request
    rw [h, hset]
  · rw [h]

theorem after_tags (s : TemplateSet) (ops : List Operation) : (s.after ops).tags = s.tags := by
  induction ops generalizing s with
  | nil => rfl
  | cons op ops ih => rw [after_cons, ih, apply_tags]

theorem after_options (s : TemplateSet) (ops : List Operation) : (s.after ops).options = s.options := by
  induction ops generalizing s with
  | nil => rfl
  | cons op ops ih => rw [after_cons, ih, apply_options]

end Operation

end Templating
