import Mathlib
import Stencil.Proofs.Render.Demand

/-!
# Executions

An instance that has not been run obtains what its body demands, under the replies that it hears
(`Instance.IsFresh.obtains_execute`). These replies are no others than those of the services: what
is said for a name that is reached is what its service answers when the names demanded before it
have been asked for (`Instance.IsFresh.told_eq_replyAfter`).
-/

namespace Stencil

namespace Instance

/-! ## Instances that have not been run -/

/-- Whether an instance has not been run: it is in the state in which instances are created, and it
has heard nothing. -/
structure IsFresh (inst : Instance) : Prop where
  /-- It is in the first state. -/
  state : inst.rendering.state = .created
  /-- It knows nothing. -/
  known : inst.known = ∅
  /-- It has heard nothing. -/
  heard : inst.heard = []

/-- The session that an execution leaves. -/
def left (inst : Instance) (asked : List String) : Session where
  known := (inst.execute asked).2.1.known
  heard := (inst.execute asked).2.1.heard
  asked := (inst.execute asked).2.2

/-- An execution of an instance that has not been run is the run of its body. -/
theorem IsFresh.execute_eq {inst : Instance} (h : inst.IsFresh) (asked : List String) :
    let ran := run inst.services inst.renderer.image.body
      { inst.rendering with state := .executing } ⟨∅, [], asked⟩
    (inst.execute asked).1 = ran.1 ∧ inst.left asked = ran.2.2
      ∧ ((inst.execute asked).1 = .ok () →
          (inst.execute asked).2.1.rendering = ran.2.1.complete) := by
  intro ran
  rw [left, execute, Rendering.begin, h.state, h.known, h.heard]
  dsimp only
  rcases hran : run inst.services inst.renderer.image.body
      { inst.rendering with state := .executing } ⟨∅, [], asked⟩
    with ⟨halt | done, rendering, session⟩
  · dsimp only [ran]
    rw [hran]
    exact ⟨rfl, rfl, fun hok => nomatch hok⟩
  · dsimp only [ran]
    rw [hran]
    exact ⟨rfl, rfl, fun _ => rfl⟩

variable {inst : Instance}

theorem IsFresh.withModel (h : inst.IsFresh) (model : Value) : (inst.withModel model).IsFresh :=
  ⟨h.state, h.known, h.heard⟩

theorem IsFresh.leads_execute (h : inst.IsFresh) (asked : List String) :
    Session.Leads inst.services ⟨∅, [], asked⟩ ((inst.execute asked).1, inst.left asked) := by
  obtain ⟨hresult, hleft, -⟩ := h.execute_eq asked
  rw [hresult, hleft]
  exact leads_run (Session.isOpen_start asked) ..

/-- What an execution hears are answers of the services when they are asked in this order. -/
theorem IsFresh.follows_left (h : inst.IsFresh) (asked : List String) :
    (inst.left asked).Follows ⟨inst.services, asked⟩ :=
  (Session.follows_start ⟨inst.services, asked⟩).of_reaches (h.leads_execute asked).reaches

theorem IsFresh.nodup_left (h : inst.IsFresh) (asked : List String) :
    (inst.left asked).names.Nodup :=
  Session.nodup_of_reaches (Session.isOpen_start asked) (h.leads_execute asked).reaches

/-- What an execution hears is told. -/
theorem IsFresh.fits_told (h : inst.IsFresh) (asked : List String) :
    (inst.told asked).Fits inst.services (inst.left asked) where
  heard name answer hmem := by
    have honce : ((inst.execute asked).2.1.heard.map (·.1)).Nodup :=
      List.nodup_reverse.mp (h.nodup_left asked)
    obtain ⟨provider, hservice⟩ :=
      (h.follows_left asked).exists_of_mem_names (Session.mem_names_iff.mpr ⟨answer, hmem⟩)
    rw [told, show inst.services.get? name = some provider from hservice,
      Entries.get?_of_mem honce hmem]
    rfl
  absent name hnone := by rw [told, hnone, Option.map_none]

/-- An execution obtains what its body demands under the replies that it hears, and if it comes to
its end the text is what the instructions show. -/
theorem IsFresh.obtains_execute (h : inst.IsFresh) (asked : List String) :
    Session.Obtains (inst.told asked) ⟨∅, [], asked⟩
        (inst.renderer.image.body.flatMap
          (Instruction.demands (inst.rendering.model.getD .null) (inst.told asked).value))
        ((inst.execute asked).1, inst.left asked)
      ∧ ((inst.execute asked).1 = .ok () →
          (inst.execute asked).2.1.rendering.text
            = .ok (inst.rendering.output
              ++ String.join (inst.renderer.image.body.map
                  (Instruction.shown (inst.rendering.model.getD .null)
                    (inst.told asked).value)))) := by
  obtain ⟨hresult, hleft, hended⟩ := h.execute_eq asked
  have hfits := h.fits_told asked
  rw [hleft] at hfits
  obtain ⟨hobtains, houtput⟩ := obtains_run (Session.isOpen_start asked) hfits
  rw [← hresult] at hobtains houtput
  rw [← hleft] at hobtains
  refine ⟨hobtains, fun hok => ?_⟩
  rw [hended hok]
  exact congrArg Except.ok (houtput hok)

/-! ## Names that are reached -/

end Instance

/-- Whether instructions come to demand a name: every name that is demanded before has an answer. -/
def Replies.Reaches (said : Replies) (model : Value) (body : List Instruction) (name : String) :
    Prop :=
  ∃ front rest, body.flatMap (Instruction.demands model said.value) = front ++ name :: rest
    ∧ ∀ earlier ∈ front, said.Answers earlier

variable {said : Replies} {model : Value} {body : List Instruction} {name : String}
  {front rest : List String} {inst : Instance}

theorem Replies.findSome?_halt?_eq_none (h : ∀ earlier ∈ front, said.Answers earlier) :
    front.findSome? said.halt? = none :=
  List.findSome?_eq_none_iff.mpr fun earlier hearlier => halt?_eq_none_iff.mpr (h earlier hearlier)

theorem Replies.findSome?_halt?_eq_some_iff {halt : Halt} :
    (body.flatMap (Instruction.demands model said.value)).findSome? said.halt? = some halt
      ↔ ∃ name, said.Reaches model body name ∧ said.halt? name = some halt := by
  rw [List.findSome?_eq_some_iff]
  constructor
  · rintro ⟨front, name, rest, hsplit, hhalt, hfront⟩
    exact ⟨name, ⟨front, rest, hsplit, fun earlier hearlier =>
      halt?_eq_none_iff.mp (hfront earlier hearlier)⟩, hhalt⟩
  · rintro ⟨name, ⟨front, rest, hsplit, hfront⟩, hhalt⟩
    exact ⟨front, name, rest, hsplit, hhalt, fun earlier hearlier =>
      halt?_eq_none_iff.mpr (hfront earlier hearlier)⟩

namespace Instance

/-- An instance that has not been run halts at a name that it reaches and that has no answer. -/
theorem IsFresh.execute_eq_error_iff (h : inst.IsFresh) (asked : List String) {halt : Halt} :
    (inst.execute asked).1 = .error halt
      ↔ ∃ name, (inst.told asked).Reaches (inst.rendering.model.getD .null)
            inst.renderer.image.body name
          ∧ (inst.told asked).halt? name = some halt := by
  rw [← Replies.findSome?_halt?_eq_some_iff, ← (h.obtains_execute asked).1.halt,
    Halt.of?_eq_some_iff]

/-- An instance that has not been run comes to its end when every name that it reaches has an
answer. -/
theorem IsFresh.execute_eq_ok_iff (h : inst.IsFresh) (asked : List String) :
    (inst.execute asked).1 = .ok ()
      ↔ ∀ name, (inst.told asked).Reaches (inst.rendering.model.getD .null)
          inst.renderer.image.body name → (inst.told asked).Answers name := by
  rw [← Halt.of?_eq_none_iff, Option.eq_none_iff_forall_ne_some]
  simp only [ne_eq, Halt.of?_eq_some_iff, h.execute_eq_error_iff asked]
  constructor
  · intro hnone name hreaches
    by_contra hanswers
    rw [← Replies.halt?_eq_none_iff] at hanswers
    obtain ⟨halt, hhalt⟩ := Option.ne_none_iff_exists'.mp hanswers
    exact hnone halt ⟨name, hreaches, hhalt⟩
  · rintro hall halt ⟨name, hreaches, hhalt⟩
    rw [Replies.halt?_eq_none_iff.mpr (hall name hreaches)] at hhalt
    cases hhalt

/-- What is said for a name that is reached is what its service answers when the names demanded
before it have been asked for. -/
theorem IsFresh.told_eq_replyAfter (h : inst.IsFresh) (asked : List String)
    (hdemands : inst.renderer.image.body.flatMap (Instruction.demands
      (inst.rendering.model.getD .null) (inst.told asked).value) = front ++ name :: rest)
    (hfront : ∀ earlier ∈ front, (inst.told asked).Answers earlier) (hnew : name ∉ front) :
    inst.told asked name
      = ServiceRegistry.replyAfter ⟨inst.services, asked⟩ front.eraseDups name := by
  cases hservice : inst.services.get? name with
  | none => rw [told, ServiceRegistry.replyAfter_eq, hservice, Option.map_none, Option.map_none]
  | some provider =>
    obtain ⟨more, hasks⟩ : ∃ more, (inst.told asked).asksFor (name :: rest) = name :: more := by
      rw [Replies.asksFor, told, hservice, Option.map_some]
      cases (Entries.get? (inst.execute asked).2.1.heard name).getD .never with
      | value value => exact ⟨_, rfl⟩
      | failure causes => exact ⟨_, rfl⟩
      | never => exact ⟨_, rfl⟩
    have hnames := (h.obtains_execute asked).1.names
    rw [hdemands, Replies.asksFor_append_of_eq_none (Replies.findSome?_halt?_eq_none hfront),
      hasks] at hnames
    -- The name has been asked for right behind those that come before it.
    obtain ⟨others, hothers⟩ := exists_eraseDups_append_cons hnew more
    replace hothers : (inst.left asked).names = front.eraseDups ++ name :: others :=
      hnames.trans hothers
    rw [Session.names, List.reverse_eq_iff, List.reverse_append, List.reverse_cons,
      List.append_assoc, List.singleton_append] at hothers
    obtain ⟨later, found, hheard, -, hfound⟩ := List.map_eq_append_iff.mp hothers
    obtain ⟨⟨asker, answer⟩, earlier, rfl, hasker, hearlier⟩ := List.map_eq_cons_iff.mp hfound
    obtain rfl : asker = name := hasker
    have hreply := (h.follows_left asked).heard later asker answer earlier hheard
    have hmem : (asker, answer) ∈ (inst.left asked).heard := by
      rw [hheard]
      exact List.mem_append_right _ List.mem_cons_self
    rw [hearlier, List.reverse_reverse] at hreply
    rw [hreply, (h.fits_told asked).heard asker answer hmem]

end Instance

/-! ## Renderings -/

namespace ServiceRegistry

variable {registry : ServiceRegistry} {renderer : Renderer}

/-- Activation gives the renderer the services of its dependencies. -/
theorem eq_of_activate (h : registry.activate renderer = .ok inst) :
    inst = ⟨renderer, registry.servicesOf renderer, .new, ∅, []⟩ := by
  unfold activate at h
  split at h
  · exact (Except.ok.inj h).symm
  · cases h

theorem renderer_of_activate (h : registry.activate renderer = .ok inst) (model : Value) :
    (inst.withModel model).renderer = renderer := by
  rw [eq_of_activate h, Instance.withModel]

theorem isFresh_of_activate (h : registry.activate renderer = .ok inst) : inst.IsFresh := by
  obtain rfl := eq_of_activate h
  exact ⟨rfl, rfl, rfl⟩

end ServiceRegistry

namespace Renderer

variable {renderer : Renderer} {registry registry' : ServiceRegistry}

theorem told_of_activate (h : registry.activate renderer = .ok inst) (model : Value) :
    renderer.told registry model = (inst.withModel model).told registry.asked := by
  rw [told, h]

/-- A rendering executes the instance and asks it for the text. -/
theorem render_of_activate (h : registry.activate renderer = .ok inst) (model : Value) :
    let ready := inst.withModel model
    renderer.render registry model
      = ((ready.execute registry.asked).1.bind fun _ =>
            (ready.execute registry.asked).2.1.rendering.text.mapError Halt.failed,
          { registry with asked := (ready.execute registry.asked).2.2 }) := by
  intro ready
  rw [render, h]
  rcases hran : ready.execute registry.asked with ⟨halt | done, finished, asked⟩
  · dsimp only [ready, Instance.withModel] at hran ⊢
    rw [hran]
    rfl
  · dsimp only [ready, Instance.withModel] at hran ⊢
    rw [hran]
    rfl

/-- A rendering whose instance comes to its end has a text: what the instructions show one after the
other, under the answers that the instance has heard. -/
theorem render_of_execute_eq_ok (h : registry.activate renderer = .ok inst)
    (hok : ((inst.withModel model).execute registry.asked).1 = .ok ()) :
    (renderer.render registry model).1
      = .ok (String.join (renderer.image.body.map
          (Instruction.shown model (renderer.told registry model).value))) := by
  have hfresh := (ServiceRegistry.isFresh_of_activate h).withModel model
  have htext := (hfresh.obtains_execute registry.asked).2 hok
  rw [render_of_activate h, hok, told_of_activate h]
  dsimp only [Except.bind]
  rw [htext]
  obtain rfl := ServiceRegistry.eq_of_activate h
  exact congrArg Except.ok (String.empty_append ..)

/-- A rendering that succeeds has an instance that comes to its end. -/
theorem exists_execute_eq_ok {shown : String}
    (h : renderer.render registry model = (.ok shown, registry')) :
    ∃ inst, registry.activate renderer = .ok inst
      ∧ ((inst.withModel model).execute registry.asked).1 = .ok () := by
  cases hactivate : registry.activate renderer with
  | error e =>
    rw [render, hactivate] at h
    cases (Prod.mk.inj h).1
  | ok inst =>
    cases hexecute : ((inst.withModel model).execute registry.asked).1 with
    | error halt =>
      rw [render_of_activate hactivate, hexecute] at h
      cases (Prod.mk.inj h).1
    | ok done => exact ⟨inst, rfl, hexecute⟩

/-- A rendering that succeeds shows what the instructions show. -/
theorem render_eq_join {shown : String}
    (h : renderer.render registry model = (.ok shown, registry')) :
    shown = String.join (renderer.image.body.map
      (Instruction.shown model (renderer.told registry model).value)) := by
  obtain ⟨inst, hactivate, hexecute⟩ := exists_execute_eq_ok h
  have hresult := congrArg Prod.fst h
  rw [render_of_execute_eq_ok hactivate hexecute] at hresult
  exact (Except.ok.inj hresult).symm

end Renderer

end Stencil
