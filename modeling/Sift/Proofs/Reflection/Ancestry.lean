import Mathlib.Logic.Function.Basic
import Sift.Reflection.Accessor

/-!
# The ancestry of a type

The ancestry of a type lists the types above it in the order in which they are searched: the type
itself, the ancestry of its superclass, and then the ancestries of its interfaces.  Each of them
comes with the part of an object that it describes, which is put together from the embeddings on the
way there and has nothing to do with paths (`Descriptor.views`).

A search is for the first hit in this list, and the path at the hit leads to the part that is listed
there (`Descriptor.search_rel`).

A path is typed, so its steps cannot be taken from an object of another type.  Without types, a
step asks each time whether it has an object of the type that it starts from, and the steps taken
so far are kept on a stack while the ancestry is walked.  Such a walk finds what a search finds,
with the steps that are listed for it, and leaves the stack as it was (`Descriptor.walk_run`).
-/

set_option autoImplicit false

namespace Sift

variable {ι : Type} {El : ι → Type} [DecidableEq ι]

/-! ## Steps without types -/

/-- The state of an object, if it is of a type. -/
def Object.as? (type : ι) (object : Object El) : Option (El type) :=
  if same : object.type = type then some (same ▸ object.state) else none

theorem Object.as?_self {type : ι} (state : El type) :
    Object.as? type (⟨type, state⟩ : Object El) = some state :=
  dif_pos rfl

/-- A step from an object to a part of it, which is refused for an object of the wrong type. -/
abbrev Upcast (El : ι → Type) := Object El → Option (Object El)

/-- The step to an embedded part. -/
def Embedding.upcast {type above : ι} (part : Embedding (El type) (El above)) : Upcast El :=
  fun object => (object.as? type).map fun state => ⟨above, part.project state⟩

/-- It leads from objects of the type to what is embedded in them. -/
theorem Embedding.as?_upcast {type above : ι} (part : Embedding (El type) (El above))
    (object : Object El) :
    ((part.upcast object).bind fun inner => inner.as? above) =
      (object.as? type).map part.project := by
  rw [upcast]
  cases object.as? type with
  | none => rfl
  | some state => exact Object.as?_self (part.project state)

/-- An interface reads the object itself. -/
def Upcast.identity : Upcast El :=
  some

/-- Take steps one after the other. -/
def Object.follow (object : Object El) (upcasts : List (Upcast El)) : Option (Object El) :=
  upcasts.foldlM (fun object upcast => upcast object) object

omit [DecidableEq ι] in
theorem Object.follow_concat (object : Object El) (upcasts : List (Upcast El))
    (upcast : Upcast El) :
    object.follow (upcasts ++ [upcast]) = (object.follow upcasts).bind upcast := by
  simp [follow, List.foldlM_append]

namespace Path

variable {start : ι}

/-- The steps of a path. -/
def upcasts : {type : ι} → Path El start type → List (Upcast El)
  | _, here => []
  | _, superclass path part => path.upcasts ++ [part.upcast]
  | _, interface path => path.upcasts ++ [Upcast.identity]

/-- **The steps of a path lead from an object of its type to the part at its end, and from other
objects to nothing of the type there.** -/
theorem follow_upcasts {type : ι} (path : Path El start type) (object : Object El) :
    ((object.follow path.upcasts).bind fun part => part.as? type) =
      (object.as? start).map path.project := by
  induction path with
  | here => exact Option.map_id'.symm
  | superclass path part ih =>
    rw [upcasts, Object.follow_concat, Option.bind_assoc]
    simp only [Embedding.as?_upcast]
    refine Option.map_bind.symm.trans ?_
    rw [ih, Option.map_map]
    rfl
  | interface path ih =>
    rw [upcasts, Object.follow_concat, Option.bind_assoc]
    exact ih

end Path

/-! ## Views -/

/-- A type above another, the part of an object that it describes, and the steps to it. -/
structure View (El : ι → Type) (start : ι) where
  type : ι
  descriptor : Descriptor El type
  part : El start → El type
  upcasts : List (Upcast El)

namespace View

variable {start type : ι}

/-- What a type sees of itself. -/
def self (descriptor : Descriptor El type) : View El type :=
  ⟨type, descriptor, id, []⟩

/-- What is seen of an object whose part is viewed. -/
def through (part : El start → El type) (upcasts : List (Upcast El)) (view : View El type) :
    View El start :=
  ⟨view.type, view.descriptor, view.part ∘ part, upcasts ++ view.upcasts⟩

omit [DecidableEq ι] in
theorem through_through {inner : ι} (part : El start → El type) (part' : El type → El inner)
    (upcasts upcasts' : List (Upcast El)) (view : View El inner) :
    (view.through part' upcasts').through part upcasts =
      view.through (part' ∘ part) (upcasts ++ upcasts') := by
  simp only [through, Function.comp_assoc, List.append_assoc]

end View

mutual
/-- The ancestry of a type. -/
def Descriptor.views : {type : ι} → Descriptor El type → List (View El type)
  | _, .base declared interfaces => .self (.base declared interfaces) :: interfaces.views
  | _, .derived declared part superclass interfaces =>
    .self (.derived declared part superclass interfaces) ::
      (superclass.views.map (View.through part.project [part.upcast]) ++ interfaces.views)

/-- The ancestries of interfaces. -/
def Interfaces.views : {type : ι} → Interfaces El type → List (View El type)
  | _, .nil => []
  | _, .cons first rest => first.views.map (View.through id [Upcast.identity]) ++ rest.views
end

/-! ## Searching -/

/-- The field of a name is one that is declared. -/
theorem Declaration.exists_of_field? {α : Type} {declared : Declaration α} {property : String}
    {field : Field α} (found : declared.field? property = some field) :
    field ∈ declared.fields ∧ field.name = property := by
  have named := List.find?_some found
  exact ⟨List.mem_of_find?_eq_some found, eq_of_beq named⟩

section Searching

variable {β γ : Type*} {start : ι}

/-- What a path sees at its end. -/
def Path.view {type : ι} (path : Path El start type) (descriptor : Descriptor El type) :
    View El start :=
  ⟨type, descriptor, path.project, path.upcasts⟩

theorem View.through_self {type : ι} (path : Path El start type)
    (descriptor : Descriptor El type) :
    (View.self descriptor).through path.project path.upcasts = path.view descriptor := by
  simp [View.through, View.self, Path.view]

theorem View.through_here :
    View.through (Path.here : Path El start start).project
      (Path.here : Path El start start).upcasts = id :=
  rfl

theorem findSome?_cons_eq_or {α : Type*} (look : α → Option γ) (first : α) (rest : List α) :
    (first :: rest).findSome? look = (look first).or (rest.findSome? look) := by
  rw [List.findSome?_cons]
  cases look first <;> rfl

theorem rel_or {related : β → γ → Prop} {first second : Option β} {first' second' : Option γ}
    (firstly : Option.Rel related first first') (secondly : Option.Rel related second second') :
    Option.Rel related (first.or second) (first'.or second') := by
  cases firstly with
  | some hit => exact .some hit
  | none => exact secondly

theorem rel_findSome? {α : Type*} {related : β → γ → Prop} {find : α → Option β}
    {look : α → Option γ} (agree : ∀ member, Option.Rel related (find member) (look member))
    (members : List α) :
    Option.Rel related (members.findSome? find) (members.findSome? look) := by
  induction members with
  | nil => exact .none
  | cons first rest ih =>
    rw [findSome?_cons_eq_or, findSome?_cons_eq_or]
    exact rel_or (agree first) ih

variable {related : β → γ → Prop}
  {find : (type : ι) → Path El start type → Descriptor El type → Option β}
  {look : View El start → Option γ}

mutual
/-- **A search is for the first hit in the ancestry.**  What is looked for in a view has to be what
is found at the end of a path that has this view. -/
theorem Descriptor.search_rel
    (agree : ∀ type path descriptor,
      Option.Rel related (find type path descriptor) (look (path.view descriptor))) :
    {type : ι} → (path : Path El start type) → (descriptor : Descriptor El type) →
      Option.Rel related (descriptor.search find path)
        ((descriptor.views.map (View.through path.project path.upcasts)).findSome? look)
  | _, path, .base declared interfaces => by
    rw [Descriptor.search, Descriptor.views, List.map_cons, findSome?_cons_eq_or, View.through_self]
    exact rel_or (agree _ path _) (interfaces.search_rel agree path)
  | _, path, .derived declared part superclass interfaces => by
    rw [Descriptor.search, Descriptor.views, List.map_cons, findSome?_cons_eq_or,
      View.through_self, List.map_append, List.findSome?_append, List.map_map]
    simp only [Function.comp_def, View.through_through]
    exact rel_or (agree _ path _)
      (rel_or (superclass.search_rel agree (path.superclass part))
        (interfaces.search_rel agree path))

theorem Interfaces.search_rel
    (agree : ∀ type path descriptor,
      Option.Rel related (find type path descriptor) (look (path.view descriptor))) :
    {type : ι} → (path : Path El start type) → (interfaces : Interfaces El type) →
      Option.Rel related (interfaces.search find path)
        ((interfaces.views.map (View.through path.project path.upcasts)).findSome? look)
  | _, _, .nil => .none
  | _, path, .cons first rest => by
    rw [Interfaces.search, Interfaces.views, List.map_append, List.findSome?_append, List.map_map]
    simp only [Function.comp_def, View.through_through]
    exact rel_or (first.search_rel agree path.interface) (rest.search_rel agree path)
end

end Searching

/-! ## Walking -/

section Walking

variable {β : Type}

/-- Try one thing after another until there is a hit. -/
def firstHit {σ : Type} (first second : StateM σ (Option β)) : StateM σ (Option β) := do
  match ← first with
  | some hit => pure (some hit)
  | none => second

/-- Walk on with one more step on the stack. -/
def Upcast.during (upcast : Upcast El) (walk : StateM (List (Upcast El)) (Option β)) :
    StateM (List (Upcast El)) (Option β) := do
  modify (· ++ [upcast])
  let hit ← walk
  modify List.dropLast
  pure hit

mutual
/-- Walk through the ancestry of a type, with the steps to it on a stack. -/
def Descriptor.walk (find : List (Upcast El) → (type : ι) → Descriptor El type → Option β) :
    {type : ι} → Descriptor El type → StateM (List (Upcast El)) (Option β)
  | type, .base declared interfaces =>
    firstHit ((find · type (.base declared interfaces)) <$> get) (interfaces.walk find)
  | type, .derived declared part superclass interfaces =>
    firstHit ((find · type (.derived declared part superclass interfaces)) <$> get)
      (firstHit (part.upcast.during (superclass.walk find)) (interfaces.walk find))

/-- Walk through the ancestries of interfaces. -/
def Interfaces.walk (find : List (Upcast El) → (type : ι) → Descriptor El type → Option β) :
    {type : ι} → Interfaces El type → StateM (List (Upcast El)) (Option β)
  | _, .nil => pure none
  | _, .cons first rest =>
    firstHit (Upcast.identity.during (first.walk find)) (rest.walk find)
end

theorem run_firstHit {σ : Type} {first second : StateM σ (Option β)} {state : σ}
    {hit hit' : Option β} (firstly : first.run state = (hit, state))
    (secondly : second.run state = (hit', state)) :
    (firstHit first second).run state = (hit.or hit', state) := by
  rw [firstHit, StateT.run_bind, firstly]
  cases hit with
  | some hit => rfl
  | none => exact secondly

omit [DecidableEq ι] in
/-- A step that is put on the stack is taken from it again. -/
theorem run_during {upcast : Upcast El} {walk : StateM (List (Upcast El)) (Option β)}
    {stack : List (Upcast El)} {hit : Option β}
    (inner : walk.run (stack ++ [upcast]) = (hit, stack ++ [upcast])) :
    (upcast.during walk).run stack = (hit, stack) := by
  show ((walk.run (stack ++ [upcast])).1, (walk.run (stack ++ [upcast])).2.dropLast) = _
  rw [inner, List.dropLast_concat]

omit [DecidableEq ι] in
/-- A walk first looks at the type where it is. -/
theorem run_here (find : List (Upcast El) → (type : ι) → Descriptor El type → Option β)
    (stack : List (Upcast El)) {type : ι} (descriptor : Descriptor El type) :
    ((find · type descriptor) <$> get : StateM (List (Upcast El)) (Option β)).run stack =
      (find (stack ++ (View.self descriptor).upcasts) type descriptor, stack) :=
  congrArg (fun upcasts => (find upcasts type descriptor, stack)) (List.append_nil stack).symm

variable {find : List (Upcast El) → (type : ι) → Descriptor El type → Option β}

mutual
/-- **A walk has the first hit in the ancestry, with the steps that are listed there, and leaves the
stack as it was.** -/
theorem Descriptor.walk_run : {type : ι} → (descriptor : Descriptor El type) →
    (stack : List (Upcast El)) → (descriptor.walk find).run stack =
      (descriptor.views.findSome? fun view =>
        find (stack ++ view.upcasts) view.type view.descriptor, stack)
  | _, .base declared interfaces, stack => by
    rw [Descriptor.walk, Descriptor.views, findSome?_cons_eq_or]
    exact run_firstHit (run_here find stack _) (interfaces.walk_run stack)
  | _, .derived declared part superclass interfaces, stack => by
    rw [Descriptor.walk, Descriptor.views, findSome?_cons_eq_or, List.findSome?_append]
    refine run_firstHit (run_here find stack _)
      (run_firstHit (run_during ?_) (interfaces.walk_run stack))
    rw [superclass.walk_run (stack ++ [part.upcast]), List.findSome?_map]
    simp only [Function.comp_def, View.through, List.append_assoc]

theorem Interfaces.walk_run : {type : ι} → (interfaces : Interfaces El type) →
    (stack : List (Upcast El)) → (interfaces.walk find).run stack =
      (interfaces.views.findSome? fun view =>
        find (stack ++ view.upcasts) view.type view.descriptor, stack)
  | _, .nil, _ => rfl
  | _, .cons first rest, stack => by
    rw [Interfaces.walk, Interfaces.views, List.findSome?_append]
    refine run_firstHit (run_during ?_) (rest.walk_run stack)
    rw [first.walk_run (stack ++ [Upcast.identity]), List.findSome?_map]
    simp only [Function.comp_def, View.through, List.append_assoc]
end

end Walking

end Sift
