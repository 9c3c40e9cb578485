import MissionConsole.Decimal.Binary
import MissionConsole.Event.Form
import Mathlib.Data.List.Forall2

/-!
# Events are told by their objects

The object of an event holds its kind and then each detail that is given, as it is: a zero, an empty
text or an empty object is given and stays, and only a detail that is not given is missing. So the
event can be read back, and no two events have one object.

Objects are compared in two ways. Taken literally they are the same in every name, value and place.
Taken as what they stand for, the order of fields does not count, and numbers count by their value:
one is the same with and without a point, and so is the truth value that stands for it. Either way,
objects are the same only for events that are.

## Main definitions

* `Number.Same`, `Json.Same`, `Event.Same` — numbers, values and events that stand for the same
* `Event.HasField` — the details of an event

## Main results

* `Json.same_obj_of_forall₂` — objects with the same fields in one order are the same
* `Event.mem_details_iff` — what stands in the object of an event
* `Event.ofForm?_form` — an event is read back from its object
* `Event.same_form_iff` — the objects of events are the same when the events are
* `Event.form_loses_nothing` — the object of an event, and the event from the object
-/

namespace Option

variable {α β : Type} {r : β → β → Prop} {g : α → β} {a b : Option α}

theorem rel_map_iff : Rel r (a.map g) (b.map g) ↔ Rel (fun x y => r (g x) (g y)) a b := by
  cases a <;> cases b
  · exact iff_of_true .none .none
  · exact iff_of_false nofun nofun
  · exact iff_of_false nofun nofun
  · rw [map_some, map_some, rel_some_some, rel_some_some]

theorem rel_eq_iff : Rel (fun x y => x = y) a b ↔ a = b := by
  constructor
  · intro h
    cases h with
    | some hsame => rw [hsame]
    | none => rfl
  · rintro rfl
    cases a with
    | none => exact .none
    | some x => exact .some rfl

end Option

namespace MissionConsole

/-! ### Numbers and values that are the same -/

namespace Number

/-- The exact value of a number, if it is finite. -/
def value? : Number → Option Rat
  | .int n => some (Rat.ofInt n)
  | .float x =>
    match (Decimal.ofFloat x).magnitude with
    | .finite m q =>
      let scaled : Int := (m * Nat.pow 2 q.toNat : Nat)
      some (mkRat (if (Decimal.ofFloat x).negative then -scaled else scaled)
        (Nat.pow 2 (-q).toNat))
    | _ => none

/-- Finite numbers of one value. -/
def Same (a b : Number) : Prop := ∃ value, a.value? = some value ∧ b.value? = some value

theorem same_int_iff {m n : Int} : Same (.int m) (.int n) ↔ m = n := by
  constructor
  · rintro ⟨value, hm, hn⟩
    exact congrArg Rat.num (Option.some.inj (hm.trans hn.symm))
  · rintro rfl
    exact ⟨_, rfl, rfl⟩

end Number

namespace Json

/-- The number that a value counts as, where truth counts as one and its opposite as zero. -/
def asNumber? : Json → Option Number
  | .num n => some n
  | .bool b => some (.int b.toInt)
  | _ => none

/-- Values that stand for the same: numbers by their value, lists place by place and objects name
by name. -/
inductive Same : Json → Json → Prop
  | null : Same .null .null
  | number {v w : Json} {a b : Number} : v.asNumber? = some a → w.asNumber? = some b → a.Same b →
    Same v w
  | str (s : String) : Same (.str s) (.str s)
  | arr {xs ys : List Json} : List.Forall₂ Same xs ys → Same (.arr xs) (.arr ys)
  | obj {fs gs : List (String × Json)} :
    (∀ name, Option.Rel Same (field? name (.obj fs)) (field? name (.obj gs))) →
    Same (.obj fs) (.obj gs)

variable {name : String} {fs gs : List (String × Json)} {a b : Number}

@[simp] theorem same_num_iff : Same (.num a) (.num b) ↔ a.Same b := by
  constructor
  · intro h
    cases h with
    | number ha hb hsame =>
      cases ha
      cases hb
      exact hsame
  · exact .number rfl rfl

@[simp] theorem same_int_iff {m n : Int} : Same (.int m) (.int n) ↔ m = n :=
  same_num_iff.trans Number.same_int_iff

@[simp] theorem same_str_iff {s t : String} : Same (.str s) (.str t) ↔ s = t := by
  constructor
  · intro h
    cases h with
    | number hs => cases hs
    | str => rfl
  · rintro rfl
    exact .str s

@[simp] theorem same_arr_iff {xs ys : List Json} :
    Same (.arr xs) (.arr ys) ↔ List.Forall₂ Same xs ys := by
  constructor
  · intro h
    cases h with
    | number hxs => cases hxs
    | arr hsame => exact hsame
  · exact .arr

theorem same_obj_iff :
    Same (.obj fs) (.obj gs) ↔
      ∀ name, Option.Rel Same (field? name (.obj fs)) (field? name (.obj gs)) := by
  constructor
  · intro h
    cases h with
    | number hfs => cases hfs
    | obj hsame => exact hsame
  · exact .obj

theorem field?_cons (f : String × Json) (fs : List (String × Json)) (name : String) :
    field? name (.obj (f :: fs)) = if f.1 = name then some f.2 else field? name (.obj fs) := by
  by_cases h : f.1 = name <;> simp [field?, h]

/-- Objects with the same fields in one order are the same. -/
theorem same_obj_of_forall₂ (h : List.Forall₂ (fun f g => f.1 = g.1 ∧ f.2.Same g.2) fs gs) :
    Same (.obj fs) (.obj gs) := by
  refine .obj fun name => ?_
  induction h with
  | nil => exact .none
  | cons hfield _ ih =>
    obtain ⟨hname, hvalue⟩ := hfield
    rw [field?_cons, field?_cons, hname]
    split_ifs
    · exact .some hvalue
    · exact ih

/-- A field is found under its name when no other one has the name. -/
theorem field?_of_mem (hnodup : (fs.map Prod.fst).Nodup) {v : Json} (h : (name, v) ∈ fs) :
    field? name (.obj fs) = some v := by
  induction fs with
  | nil => exact absurd h List.not_mem_nil
  | cons f fs ih =>
    rw [List.map_cons, List.nodup_cons] at hnodup
    rw [field?_cons]
    rcases List.mem_cons.1 h with rfl | hrest
    · exact if_pos rfl
    · have hne : f.1 ≠ name := fun heq => hnodup.1 (heq ▸ List.mem_map_of_mem hrest)
      rw [if_neg hne, ih hnodup.2 hrest]

end Json

namespace Event

variable {e f : Event} {name : String} {v : Json}

/-! ### The details of an event -/

/-- A detail of an event that is given, under its name. -/
inductive HasField : Event → String → Json → Prop
  | alertDuration (ms : Int) : HasField (.alert ms) "duration_ms" (.int ms)
  | unlockId (id : String) : HasField (.unlock id) "id" (.str id)
  | target (target : String) (center : Option (Number × Number)) (zoom : Option Number)
    (ms : Option Int) : HasField (.navigate target center zoom ms) "target" (.str target)
  | center (target : String) (lng lat : Number) (zoom : Option Number) (ms : Option Int) :
    HasField (.navigate target (some (lng, lat)) zoom ms) "center" (.arr [.num lng, .num lat])
  | zoom (target : String) (center : Option (Number × Number)) (zoom : Number)
    (ms : Option Int) : HasField (.navigate target center (some zoom) ms) "zoom" (.num zoom)
  | duration (target : String) (center : Option (Number × Number)) (zoom : Option Number)
    (ms : Int) : HasField (.navigate target center zoom (some ms)) "duration_ms" (.int ms)
  | action (action : String) (params : List (String × Json)) :
    HasField (.uxv action params) "action" (.str action)
  | params (action : String) (params : List (String × Json)) :
    HasField (.uxv action params) "params" (.obj params)
  | soundName (name : String) : HasField (.sound name) "name" (.str name)
  | effectName (name : String) (ms : Int) : HasField (.effect name ms) "name" (.str name)
  | delay (name : String) (ms : Int) : HasField (.effect name ms) "delay_ms" (.int ms)

theorem HasField.ne_null (h : e.HasField name v) : v ≠ .null := by
  rintro rfl
  cases h

theorem mem_optional {detail : String} {value : Option Json} :
    (name, v) ∈ optional detail value ↔ name = detail ∧ value = some v := by
  cases value with
  | none => simp [optional]
  | some w => simp [optional, eq_comm]

theorem mem_details_iff : (name, v) ∈ e.details ↔ e.HasField name v := by
  constructor
  · intro h
    cases e with
    | navigate target center zoom ms =>
      simp only [details, List.cons_append, List.mem_cons, List.mem_append, Prod.mk.injEq,
        mem_optional, Option.map_eq_some_iff] at h
      rcases h with ⟨rfl, rfl⟩ | (⟨rfl, c, rfl, rfl⟩ | ⟨rfl, z, rfl, rfl⟩) | ⟨rfl, d, rfl, rfl⟩
      · exact .target ..
      · exact .center ..
      · exact .zoom ..
      · exact .duration ..
    | uxv action params =>
      simp only [details, List.mem_cons, List.not_mem_nil, or_false, Prod.mk.injEq] at h
      rcases h with ⟨rfl, rfl⟩ | ⟨rfl, rfl⟩
      · exact .action ..
      · exact .params ..
    | effect effect ms =>
      simp only [details, List.mem_cons, List.not_mem_nil, or_false, Prod.mk.injEq] at h
      rcases h with ⟨rfl, rfl⟩ | ⟨rfl, rfl⟩
      · exact .effectName ..
      · exact .delay ..
    | alert ms =>
      obtain ⟨rfl, rfl⟩ := Prod.mk.inj (List.mem_singleton.1 h)
      exact .alertDuration ms
    | unlock id =>
      obtain ⟨rfl, rfl⟩ := Prod.mk.inj (List.mem_singleton.1 h)
      exact .unlockId id
    | sound sound =>
      obtain ⟨rfl, rfl⟩ := Prod.mk.inj (List.mem_singleton.1 h)
      exact .soundName sound
    | clear => exact absurd h List.not_mem_nil
    | close => exact absurd h List.not_mem_nil
  · rintro ⟨⟩ <;> simp [details, optional]

/-- The kind and the details stand under different names. -/
theorem nodup_names (e : Event) : ("kind" :: e.details.map Prod.fst).Nodup := by
  cases e with
  | navigate target center zoom ms =>
    -- Which names there are depends on what is given.
    cases center <;> cases zoom <;> cases ms <;> simp [details, optional]
  | _ => simp [details]

theorem HasField.field?_form (h : e.HasField name v) : e.form.field? name = some v := by
  refine Json.field?_of_mem ?_ (List.mem_cons_of_mem _ (mem_details_iff.2 h))
  exact e.nodup_names

/-- An event is read back from its object. -/
theorem ofForm?_form (e : Event) : ofForm? e.form = some e := by
  cases e with
  | navigate target center zoom ms =>
    rcases center with - | ⟨lng, lat⟩ <;> cases zoom <;> cases ms <;> rfl
  | _ => rfl

/-! ### Objects of events that are the same -/

/-- Events that stand for the same: of one kind, with numbers of one value where numbers need not be
whole, and with parameters that are the same. -/
inductive Same : Event → Event → Prop
  | alert (ms : Int) : Same (.alert ms) (.alert ms)
  | unlock (id : String) : Same (.unlock id) (.unlock id)
  | clear : Same .clear .clear
  | navigate (target : String) {center center' : Option (Number × Number)}
    {zoom zoom' : Option Number} (ms : Option Int) :
    Option.Rel (fun p q => p.1.Same q.1 ∧ p.2.Same q.2) center center' →
    Option.Rel Number.Same zoom zoom' →
    Same (.navigate target center zoom ms) (.navigate target center' zoom' ms)
  | uxv (action : String) {params params' : List (String × Json)} :
    Json.Same (.obj params) (.obj params') → Same (.uxv action params) (.uxv action params')
  | sound (name : String) : Same (.sound name) (.sound name)
  | effect (name : String) (ms : Int) : Same (.effect name ms) (.effect name ms)
  | close : Same .close .close

theorem Kind.name_injective : Function.Injective Kind.name := by
  rintro ⟨⟩ ⟨⟩ h <;> first | rfl | exact absurd h (by decide)

theorem rel_int_iff {ms ms' : Option Int} :
    Option.Rel Json.Same (ms.map .int) (ms'.map .int) ↔ ms = ms' := by
  rw [Option.rel_map_iff]
  simp only [Json.same_int_iff, Option.rel_eq_iff]

theorem forall₂_optional (name : String) {v w : Option Json} (h : Option.Rel Json.Same v w) :
    List.Forall₂ (fun f g => f.1 = g.1 ∧ f.2.Same g.2) (optional name v) (optional name w) := by
  cases h with
  | some hsame => exact .cons ⟨rfl, hsame⟩ .nil
  | none => exact .nil

/-- Events that are the same have their details under the same names and in one order. -/
theorem Same.details (h : e.Same f) :
    List.Forall₂ (fun d d' => d.1 = d'.1 ∧ d.2.Same d'.2) e.details f.details := by
  cases h with
  | alert ms => exact .cons ⟨rfl, Json.same_int_iff.2 rfl⟩ .nil
  | unlock id => exact .cons ⟨rfl, .str id⟩ .nil
  | clear => exact .nil
  | navigate target ms hcenter hzoom =>
    -- A detail that is not given is missing in both.
    refine List.rel_append (List.rel_append (.cons ⟨rfl, .str target⟩ ?_) ?_) ?_
    · refine forall₂_optional "center" (Option.rel_map_iff.2 ?_)
      simpa using hcenter
    · refine forall₂_optional "zoom" (Option.rel_map_iff.2 ?_)
      simpa using hzoom
    · exact forall₂_optional "duration_ms" (rel_int_iff.2 rfl)
  | uxv action hparams => exact .cons ⟨rfl, .str action⟩ (.cons ⟨rfl, hparams⟩ .nil)
  | sound name => exact .cons ⟨rfl, .str name⟩ .nil
  | effect name ms => exact .cons ⟨rfl, .str name⟩ (.cons ⟨rfl, Json.same_int_iff.2 rfl⟩ .nil)
  | close => exact .nil

theorem Same.kind_eq (h : e.Same f) : e.kind = f.kind := by
  cases h <;> rfl

theorem Same.form (h : e.Same f) : e.form.Same f.form :=
  Json.same_obj_of_forall₂ (.cons ⟨rfl, by rw [h.kind_eq]; exact .str _⟩ h.details)

/-- What stands in the object of a movement of the map is found under its name, given or not. -/
theorem field?_form_navigate (target : String) (center : Option (Number × Number))
    (zoom : Option Number) (ms : Option Int) :
    (form (.navigate target center zoom ms)).field? "center" =
        center.map (fun c => .arr [.num c.1, .num c.2]) ∧
      (form (.navigate target center zoom ms)).field? "zoom" = zoom.map .num ∧
      (form (.navigate target center zoom ms)).field? "duration_ms" = ms.map .int := by
  cases center <;> cases zoom <;> cases ms <;> exact ⟨rfl, rfl, rfl⟩

theorem rel_field?_form (h : e.form.Same f.form) (name : String) :
    Option.Rel Json.Same (e.form.field? name) (f.form.field? name) :=
  Json.same_obj_iff.1 h name

theorem kind_eq_of_same_form (h : e.form.Same f.form) : e.kind = f.kind := by
  have hkind : Option.Rel Json.Same (some (.str e.kind.name)) (some (.str f.kind.name)) :=
    rel_field?_form h "kind"
  rw [Option.rel_some_some, Json.same_str_iff] at hkind
  exact Kind.name_injective hkind

/-- Details of one name are the same where the objects are. -/
theorem HasField.same {w : Json} (he : e.HasField name v) (hf : f.HasField name w)
    (h : e.form.Same f.form) : v.Same w := by
  have hfield := rel_field?_form h name
  rwa [he.field?_form, hf.field?_form, Option.rel_some_some] at hfield

theorem same_of_same_form (h : e.form.Same f.form) : e.Same f := by
  -- Events of two kinds differ in their kinds, and events of one kind are compared name by name.
  have hkind := kind_eq_of_same_form h
  cases e with
  | alert ms =>
    cases f with
    | alert ms' =>
      have hms := (HasField.alertDuration ms).same (.alertDuration ms') h
      rw [Json.same_int_iff] at hms
      exact hms ▸ .alert ms
    | _ => cases hkind
  | unlock id =>
    cases f with
    | unlock id' =>
      have hid := (HasField.unlockId id).same (.unlockId id') h
      rw [Json.same_str_iff] at hid
      exact hid ▸ .unlock id
    | _ => cases hkind
  | clear =>
    cases f with
    | clear => exact .clear
    | _ => cases hkind
  | navigate target center zoom ms =>
    cases f with
    | navigate target' center' zoom' ms' =>
      obtain ⟨hcenter, hzoom, hms⟩ := field?_form_navigate target center zoom ms
      obtain ⟨hcenter', hzoom', hms'⟩ := field?_form_navigate target' center' zoom' ms'
      have htarget := (HasField.target target center zoom ms).same (.target _ center' zoom' ms') h
      have hcenters := rel_field?_form h "center"
      have hzooms := rel_field?_form h "zoom"
      have hdurations := rel_field?_form h "duration_ms"
      rw [Json.same_str_iff] at htarget
      rw [hcenter, hcenter', Option.rel_map_iff] at hcenters
      rw [hzoom, hzoom', Option.rel_map_iff] at hzooms
      rw [hms, hms', rel_int_iff] at hdurations
      rw [← htarget, ← hdurations]
      exact .navigate target ms (by simpa using hcenters) (by simpa using hzooms)
    | _ => cases hkind
  | uxv action params =>
    cases f with
    | uxv action' params' =>
      have haction := (HasField.action action params).same (.action action' params') h
      rw [Json.same_str_iff] at haction
      have hparams := (HasField.params action params).same (.params action' params') h
      exact haction ▸ .uxv action hparams
    | _ => cases hkind
  | sound name =>
    cases f with
    | sound name' =>
      have hname := (HasField.soundName name).same (.soundName name') h
      rw [Json.same_str_iff] at hname
      exact hname ▸ .sound name
    | _ => cases hkind
  | effect name ms =>
    cases f with
    | effect name' ms' =>
      have hname := (HasField.effectName name ms).same (.effectName name' ms') h
      have hms := (HasField.delay name ms).same (.delay name' ms') h
      rw [Json.same_str_iff] at hname
      rw [Json.same_int_iff] at hms
      exact hname ▸ hms ▸ .effect name ms
    | _ => cases hkind
  | close =>
    cases f with
    | close => exact .close
    | _ => cases hkind

/-- The objects of events are the same exactly when the events are. -/
theorem same_form_iff : e.form.Same f.form ↔ e.Same f :=
  ⟨same_of_same_form, Same.form⟩

theorem form_inj : e.form = f.form ↔ e = f := by
  constructor
  · intro h
    have hread : ofForm? e.form = ofForm? f.form := congrArg ofForm? h
    rwa [ofForm?_form, ofForm?_form, Option.some_inj] at hread
  · exact congrArg form

/-- The object of an event begins with its kind and then holds, each under a name of its own, the
details that are given, whatever their values, and nothing that is null; a position is a list of
two numbers. The event is read back from the object. So events with one object are one event, and
objects that stand for the same, in whatever order and with whatever numbers of the same value, are
those of events that stand for the same. -/
theorem form_loses_nothing (e : Event) :
    (∃ rest, e.form = .obj (("kind", .str e.kind.name) :: rest) ∧
        ("kind" :: rest.map Prod.fst).Nodup ∧
        (∀ name, (name, Json.null) ∉ rest) ∧
        ∀ name v, (name, v) ∈ rest ↔ e.HasField name v) ∧
      ofForm? e.form = some e ∧
      ∀ f : Event, (f.form = e.form ↔ f = e) ∧ (f.form.Same e.form ↔ f.Same e) := by
  refine ⟨⟨e.details, rfl, e.nodup_names, fun name hnull => ?_, fun _ _ => mem_details_iff⟩,
    ofForm?_form e, fun f => ⟨form_inj, same_form_iff⟩⟩
  exact (mem_details_iff.1 hnull).ne_null rfl

example :
    form (.uxv "" [("a", .null), ("b", .obj [("c", .bool false), ("d", .arr [])])]) =
      .obj [("kind", .str "uxv"), ("action", .str ""),
        ("params", .obj [("a", .null), ("b", .obj [("c", .bool false), ("d", .arr [])])])] := rfl

end Event

end MissionConsole
