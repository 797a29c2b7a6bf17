import QuadMosaic.Described.Member
import QuadMosaic.Options.Merge
import QuadMosaic.Proofs.Members
import QuadMosaic.Proofs.Steps

/-!
# What is found in options laid over others

Options are laid over others key by key: what then stands under a key depends on what stood there
and on what is laid on top (`Fields.layer`).  An object laid over another is the case in which the
top replaces what is below, and a merge of options the one in which the top of a group is laid over
the group (`Fields.laid`).

An option is looked up in what was laid on top first and then in what lies below.  This holds of an
object laid over another (`Fields.get?_overlay`), of the options of a merge outside the groups
(`Fields.get?_merge`) and of the members of a group (`Fields.get?_members_merge`).  A group is merged
one level deep: a member that is an object itself is replaced as a whole.
-/

namespace QuadMosaic

namespace Fields

variable {base later fields : Fields} {key group : String}

theorem keys_append (a b : Fields) : keys (a ++ b) = keys a ++ keys b := List.map_append

theorem keys_put (fields : Fields) (key : String) (value : Json) :
    keys (put fields key value) =
      if key ∈ keys fields then keys fields else keys fields ++ [key] := by
  induction fields with
  | nil => rfl
  | cons f rest ih =>
    obtain ⟨k, v⟩ := f
    change _ = if key ∈ k :: keys rest then k :: keys rest else (k :: keys rest) ++ [key]
    unfold put
    by_cases h : k = key
    · rw [if_pos h, if_pos (h ▸ List.mem_cons_self)]
      rfl
    · rw [if_neg h]
      change k :: keys (put rest key value) = _
      simp only [ih, List.mem_cons, or_iff_right (Ne.symm h)]
      split <;> rfl

/-! ## Layers -/

/-- What is laid on top, with what comes to stand under each key made of the two values there. -/
def layer (combine : String → Option Json → Json → Json) (base later : Fields) : Fields :=
  later.foldl (fun fields f ↦ fields.put f.1 (combine f.1 (get? fields f.1) f.2)) base

section

variable (combine : String → Option Json → Json → Json)

theorem layer_cons (base : Fields) (k : String) (v : Json) (rest : Fields) :
    layer combine base ((k, v) :: rest) =
      layer combine (base.put k (combine k (get? base k) v)) rest := rfl

/-- Each key is written once at most, and over what the base has there. -/
theorem get?_layer (h : (keys later).Nodup) (base : Fields) (key : String) :
    get? (layer combine base later) key =
      ((get? later key).map (combine key (get? base key))).or (get? base key) := by
  induction later generalizing base with
  | nil => rfl
  | cons f rest ih =>
    obtain ⟨k, v⟩ := f
    obtain ⟨hk, hrest⟩ := List.nodup_cons.1 h
    rw [layer_cons, ih hrest, get?_put, get?_cons]
    by_cases heq : k = key
    · subst heq
      rw [get?_eq_none_of_not_mem hk]
      simp
    · rw [if_neg heq, if_neg heq]

/-- What is laid on top keeps the places of the base; new keys follow in their order. -/
theorem keys_layer (h : (keys later).Nodup) (base : Fields) :
    keys (layer combine base later) =
      keys base ++ (keys later).filter fun k ↦ k ∉ keys base := by
  induction later generalizing base with
  | nil => exact (List.append_nil _).symm
  | cons f rest ih =>
    obtain ⟨k, v⟩ := f
    obtain ⟨hk, hrest⟩ := List.nodup_cons.1 h
    rw [layer_cons, ih hrest, keys_put]
    change _ = keys base ++ (k :: keys rest).filter _
    by_cases hmem : k ∈ keys base
    · rw [if_pos hmem, List.filter_cons_of_neg (by simpa using hmem)]
    · rw [if_neg hmem, List.filter_cons_of_pos (by simpa using hmem), List.append_assoc]
      refine congrArg (keys base ++ k :: ·) (List.filter_congr fun k' hk' ↦ ?_)
      have hne : k' ≠ k := fun heq ↦ hk (heq ▸ hk')
      simp [hne]

end

theorem overlay_eq_layer (base later : Fields) :
    overlay base later = layer (fun _ _ value ↦ value) base later := rfl

theorem get?_overlay (h : (keys later).Nodup) (base : Fields) (key : String) :
    get? (overlay base later) key = (get? later key).or (get? base key) := by
  rw [overlay_eq_layer, get?_layer _ h, Option.map_id']

theorem members_eq_of_toMembers {ms : Fields} (h : (fields.getD group).toMembers = .ok ms) :
    ms = members fields group := by
  unfold members
  unfold Json.toMembers at h
  split at h
  case h_1 heq =>
    cases h
    rw [heq]
    rfl
  case h_2 value hne =>
    split at h
    · cases h
    · cases h
      cases hvalue : fields.getD group
      case obj fs => exact absurd hvalue (hne fs)
      all_goals rfl

theorem members_of_get?_obj {ms : Fields} (h : get? fields group = some (.obj ms)) :
    members fields group = ms := by
  rw [members, getD, h]
  rfl

theorem members_of_get?_eq_none (h : get? fields group = none) : members fields group = [] := by
  rw [members, getD, h]
  rfl

theorem members_congr {a b : Fields} (h : get? a group = get? b group) :
    members a group = members b group := by
  rw [members, members, getD, getD, h]

/-! ## Options laid over others -/

/-- What stands under a key once a value was laid over what stood there: an object laid over that of
a group, or the value. -/
def laid (key : String) (below : Option Json) (value : Json) : Json :=
  match groups.contains key, below, value with
  | true, some (.obj group), .obj later => .obj (overlay group later)
  | _, _, _ => value

theorem laid_of_plain (h : groups.contains key = false) (below : Option Json) (value : Json) :
    laid key below value = value := by
  unfold laid
  rw [h]

theorem laid_obj_obj (h : groups.contains key = true) (group later : Fields) :
    laid key (some (.obj group)) (.obj later) = .obj (overlay group later) := by
  unfold laid
  rw [h]

theorem laid_none (key : String) (value : Json) : laid key none value = value := by
  unfold laid
  split
  case h_1 hnone => cases hnone
  case h_2 => rfl

/-- A member of a group is the one laid on top, or the one below. -/
theorem get?_members_laid (below : Option Json) {ms : Fields} (h : groups.contains group = true)
    (hms : (keys ms).Nodup) : ∃ after, laid group below (.obj ms) = .obj after ∧
      ∀ k, get? after k = (get? ms k).or (get? (below.getD .null).members k) := by
  match below with
  | some (.obj g) => exact ⟨_, laid_obj_obj h g ms, get?_overlay hms g⟩
  | none | some .null | some (.bool _) | some (.int _) | some (.real _) | some (.str _)
  | some (.arr _) =>
    refine ⟨ms, ?_, fun k ↦ Option.or_none.symm⟩
    unfold laid
    rw [h]

/-- One option is laid over others, if nothing but an object is laid over a group. -/
theorem mergeOne_eq_ok_iff {value : Json} : mergeOne base key value = .ok fields ↔
    (groups.contains key = true → (∃ g, get? base key = some (.obj g)) →
      ∃ ms, value = .obj ms) ∧ base.put key (laid key (get? base key) value) = fields := by
  unfold mergeOne
  split
  case h_1 g hgroup hbase =>
    rw [hbase]
    split
    case h_1 ms =>
      rw [laid_obj_obj hgroup, Except.ok.injEq]
      exact (and_iff_right fun _ _ ↦ ⟨ms, rfl⟩).symm
    case h_2 hvalue =>
      refine iff_of_false nofun fun h ↦ ?_
      obtain ⟨ms, hms⟩ := h.1 hgroup ⟨g, rfl⟩
      exact hvalue ms hms
  case h_2 hne =>
    rw [Except.ok.injEq]
    have hplace : ¬ (groups.contains key = true ∧ ∃ g, get? base key = some (.obj g)) := by
      rintro ⟨hgroup, g, hg⟩
      exact hne g hgroup hg
    have hlaid : laid key (get? base key) value = value := by
      unfold laid
      split
      case h_1 g ms hgroup hbase => exact absurd hbase (hne g hgroup)
      case h_2 => rfl
    rw [hlaid]
    exact (and_iff_right fun hgroup hg ↦ absurd ⟨hgroup, hg⟩ hplace).symm

/-- Options that are merged are laid over others key by key. -/
theorem eq_layer_of_merge (h : merge base later = .ok fields) : layer laid base later = fields := by
  induction later generalizing base with
  | nil => exact Except.ok.inj h
  | cons f rest ih =>
    obtain ⟨k, v⟩ := f
    obtain ⟨mid, hmid, h⟩ := exists_of_bind_eq_ok h
    obtain ⟨-, rfl⟩ := mergeOne_eq_ok_iff.1 hmid
    exact ih h

/-- Outside the groups an option is the one laid on top, or the one below. -/
theorem get?_merge (hlater : (keys later).Nodup) (h : merge base later = .ok fields)
    (hkey : groups.contains key = false) :
    get? fields key = (get? later key).or (get? base key) := by
  rw [← eq_layer_of_merge h, get?_layer _ hlater]
  congr 1
  exact (Option.map_congr fun value _ ↦ laid_of_plain hkey _ value).trans Option.map_id'

/-- A member of a group is the one laid on top, or the one below. -/
theorem get?_members_merge (hlater : (keys later).Nodup) (h : merge base later = .ok fields)
    (hgroup : groups.contains group = true)
    (hms : ∀ value, get? later group = some value → ∃ ms, value = .obj ms ∧ (keys ms).Nodup)
    (key : String) :
    get? (members fields group) key =
      (get? (members later group) key).or (get? (members base group) key) := by
  have hfields := get?_layer laid hlater base group
  rw [eq_layer_of_merge h] at hfields
  cases hvalue : get? later group with
  | none =>
    rw [hvalue] at hfields
    rw [members_congr hfields, members_of_get?_eq_none hvalue, get?_nil, Option.none_or]
  | some value =>
    obtain ⟨ms, rfl, hnodup⟩ := hms value hvalue
    obtain ⟨after, hafter, hmember⟩ := get?_members_laid (get? base group) hgroup hnodup
    rw [hvalue, Option.map_some, Option.some_or, hafter] at hfields
    rw [members_of_get?_obj hfields, members_of_get?_obj hvalue, hmember]
    rfl

end Fields

end QuadMosaic
