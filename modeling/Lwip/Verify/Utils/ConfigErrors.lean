import Lwip.Verify.Utils.ConfigParser

/-! What a value of `mtu` does to the rest of a configuration. The map is applied in the order of
its keys, so a value that is no number leaves what sorts before `mtu` set (`applyConfig_fails`);
one that is a number is cut to 16 bits, whatever follows its digits (`applyConfig_succeeds`). -/

namespace Lwip

namespace ConfigParser

open Std (ExtTreeMap)

/-! ## A map that fails -/

theorem applyEntries_append {config after : StackConfig} {before : List (Chars × Chars)}
    (rest : List (Chars × Chars)) (h : applyEntries config before = (true, after)) :
    applyEntries config (before ++ rest) = applyEntries after rest := by
  induction config, before using applyEntries.induct with
  | case1 config =>
    cases h
    rfl
  | case2 config v before ih =>
    rw [applyEntries, if_pos rfl] at h
    rw [List.cons_append, applyEntries, if_pos rfl, ih h]
  | case3 config v before ne₁ ih =>
    rw [applyEntries, if_neg ne₁, if_pos rfl] at h
    rw [List.cons_append, applyEntries, if_neg ne₁, if_pos rfl, ih h]
  | case4 config v before ne₁ ne₂ ih =>
    rw [applyEntries, if_neg ne₁, if_neg ne₂, if_pos rfl] at h
    rw [List.cons_append, applyEntries, if_neg ne₁, if_neg ne₂, if_pos rfl, ih h]
  | case5 config v before n number ne₁ ne₂ ne₃ ih =>
    rw [applyEntries, if_neg ne₁, if_neg ne₂, if_neg ne₃, if_pos rfl, number] at h
    rw [List.cons_append, applyEntries, if_neg ne₁, if_neg ne₂, if_neg ne₃, if_pos rfl, number]
    exact ih h
  | case6 config v before noNumber ne₁ ne₂ ne₃ =>
    rw [applyEntries, if_neg ne₁, if_neg ne₂, if_neg ne₃, if_pos rfl, noNumber] at h
    cases h
  | case7 config key v before ne₁ ne₂ ne₃ ne₄ ih =>
    rw [applyEntries, if_neg ne₁, if_neg ne₂, if_neg ne₃, if_neg ne₄] at h
    rw [List.cons_append, applyEntries, if_neg ne₁, if_neg ne₂, if_neg ne₃, if_neg ne₄, ih h]

/-- Entries that give a key the value the map has for it, if it has one. -/
theorem settled_getD {values : ExtTreeMap Chars Chars} {key : Chars}
    {entries : List (Chars × Chars)} (old : Chars)
    (held : ∀ v, (key, v) ∈ entries ↔ values[key]? = some v) :
    Settled (· = values[key]?.getD old) (old = values[key]?.getD old) key entries := by
  constructor
  · intro v mem
    rw [(held v).mp mem, Option.getD_some]
  · cases h : values[key]? with
    | none => exact .inl rfl
    | some v => exact .inr ⟨v, (held v).mpr h⟩

/-- No entry has the key, so it stays as it is. -/
theorem settled_absent {good : Chars → Prop} {key : Chars} {entries : List (Chars × Chars)}
    (absent : ∀ v, (key, v) ∉ entries) {set : Prop} (h : set) : Settled good set key entries :=
  ⟨fun v mem => absurd mem (absent v), .inl h⟩

/-- The entries of a map around one of them, in the order of the keys. -/
theorem toList_split {values : ExtTreeMap Chars Chars} {key value : Chars}
    (held : values[key]? = some value) : ∃ before after,
      values.toList = before ++ (key, value) :: after ∧
      ∀ k v, (k, v) ∈ before ↔ values[k]? = some v ∧ compare k key = .lt := by
  obtain ⟨before, after, split⟩ :=
    List.append_of_mem (ExtTreeMap.mem_toList_iff_getElem?_eq_some.mpr held)
  have sorted := values.ordered_keys_toList
  rw [split, List.pairwise_append, List.pairwise_cons] at sorted
  obtain ⟨-, ⟨later, -⟩, earlier⟩ := sorted
  refine ⟨before, after, split, fun k v => ⟨fun mem => ⟨?_, ?_⟩, ?_⟩⟩
  · rw [← ExtTreeMap.mem_toList_iff_getElem?_eq_some, split]
    exact List.mem_append_left _ mem
  · exact earlier _ mem _ List.mem_cons_self
  · rintro ⟨found, lt⟩
    rw [← ExtTreeMap.mem_toList_iff_getElem?_eq_some, split, List.mem_append,
      List.mem_cons] at found
    rcases found with mem | same | mem
    · exact mem
    · cases same
      rw [Std.ReflOrd.compare_self] at lt
      cases lt
    · exact absurd (later _ mem) (Std.OrientedCmp.not_lt_of_lt lt)

theorem ofInt_toNat (mtu : UInt16) : UInt16.ofInt mtu.toNat = mtu := by
  rw [ofInt_natCast mtu.toNat_lt, UInt16.ofNat_toNat]

/-- `interface` and `ip_address` sort before `mtu`, and `netmask` after it. -/
theorem applyConfig_fails {values : ExtTreeMap Chars Chars} {value : Chars}
    (held : values["mtu".toList]? = some value) (noNumber : stoi value = none)
    (config : StackConfig) :
    applyConfig values config =
      (false, { config with
        interfaceName := values["interface".toList]?.getD config.interfaceName
        ipAddress := values["ip_address".toList]?.getD config.ipAddress }) := by
  obtain ⟨before, after, split, mem⟩ := toList_split held
  have first : ∀ {key : Chars}, compare key "mtu".toList = .lt →
      ∀ v, (key, v) ∈ before ↔ values[key]? = some v := by
    intro key lt v
    rw [mem key v, and_iff_left lt]
  have later : ∀ {key : Chars}, compare key "mtu".toList ≠ .lt → ∀ v, (key, v) ∉ before :=
    fun ge v h => ge ((mem _ v).mp h).2
  have done : applyEntries config before = (true, { config with
      interfaceName := values["interface".toList]?.getD config.interfaceName
      ipAddress := values["ip_address".toList]?.getD config.ipAddress }) :=
    applyEntries_eq (ofInt_toNat config.mtu) (settled_getD _ (first (by decide)))
      (settled_getD _ (first (by decide))) (settled_absent (later (by decide)) rfl)
      (settled_absent (later (by decide)) rfl)
  rw [applyConfig, split, applyEntries_append _ done, applyEntries, if_neg (by decide),
    if_neg (by decide), if_neg (by decide), if_pos rfl, noNumber]

/-- What a map without such a value sets. -/
theorem applyConfig_succeeds {values : ExtTreeMap Chars Chars}
    (number : ∀ v, values["mtu".toList]? = some v → stoi v ≠ none) (config : StackConfig) :
    applyConfig values config =
      (true, {
        interfaceName := values["interface".toList]?.getD config.interfaceName
        ipAddress := values["ip_address".toList]?.getD config.ipAddress
        netmask := values["netmask".toList]?.getD config.netmask
        mtu := (values["mtu".toList]?.bind stoi).elim config.mtu UInt16.ofInt }) := by
  have held : ∀ (key v : Chars), (key, v) ∈ values.toList ↔ values[key]? = some v := by
    intro key v
    rw [ExtTreeMap.mem_toList_iff_getElem?_eq_some]
  rw [applyConfig]
  cases h : values["mtu".toList]? with
  | none =>
    have absent : ∀ v, ("mtu".toList, v) ∉ values.toList := by
      intro v mem
      cases h.symm.trans ((held _ v).mp mem)
    exact applyEntries_eq (ofInt_toNat config.mtu) (settled_getD _ (held _))
      (settled_getD _ (held _)) (settled_getD _ (held _)) (settled_absent absent rfl)
  | some v =>
    obtain ⟨n, hn⟩ := Option.ne_none_iff_exists'.mp (number v h)
    rw [Option.bind_some, hn, Option.elim_some]
    exact applyEntries_eq rfl (settled_getD _ (held _)) (settled_getD _ (held _))
      (settled_getD _ (held _)) (settled_toList h hn)

/-- The configuration is left as it was exactly when no value of `mtu` is refused, or when what
sorts before it changes nothing. -/
theorem rejects_unchanged_iff (values : ExtTreeMap Chars Chars) (config : StackConfig) :
    ((applyConfig values config).1 = false → (applyConfig values config).2 = config) ↔
      (∀ v, values["mtu".toList]? = some v → stoi v ≠ none) ∨
      ((∀ v, values["interface".toList]? = some v → v = config.interfaceName) ∧
        ∀ v, values["ip_address".toList]? = some v → v = config.ipAddress) := by
  by_cases number : ∀ v, values["mtu".toList]? = some v → stoi v ≠ none
  · rw [applyConfig_succeeds number]
    exact iff_of_true (fun failed => by cases failed) (.inl number)
  · simp only [not_forall, not_not] at number
    obtain ⟨v, held, refused⟩ := number
    have kept : ∀ {key old : Chars}, values[key]?.getD old = old ↔
        ∀ v, values[key]? = some v → v = old := by
      intro key old
      cases h : values[key]? with
      | none => exact iff_of_true rfl fun v found => by cases found
      | some v => exact ⟨fun same v' found => by cases found; exact same, fun all => all v rfl⟩
    rw [applyConfig_fails held refused, or_iff_right fun all => all v held refused, ← kept, ← kept]
    constructor
    · intro unchanged
      have same := unchanged rfl
      exact ⟨congrArg StackConfig.interfaceName same, congrArg StackConfig.ipAddress same⟩
    · rintro ⟨interface, address⟩ -
      rw [interface, address]

/-- An interface and a value of `mtu` that is no number. -/
def halfApplied : ExtTreeMap Chars Chars :=
  .ofList [("interface".toList, "tun1".toList), ("mtu".toList, "large".toList)]

theorem halfApplied_changes : ¬ ∀ values config,
    (applyConfig values config).1 = false → (applyConfig values config).2 = config := by
  intro unchanged
  have held : halfApplied["mtu".toList]? = some "large".toList := by decide
  have set := applyConfig_fails held (by decide) {}
  have same := unchanged halfApplied {}
  rw [set] at same
  exact absurd (congrArg StackConfig.interfaceName (same rfl)) (by decide)

/-! ## The last assignment -/

/-- The value that the last line to give the key one gives it. -/
def lastAssigned (key text : Chars) : Option Chars :=
  (((getlines text).filterMap parseLine).filter (·.1 = key)).getLast?.map Prod.snd

theorem getElem?_lastAssigned (key text : Chars) :
    ((getlines text).foldl readLine ∅)[key]? = lastAssigned key text :=
  getElem?_readLines key (getlines text)

/-- A number that fits in the 16 bits of `mtu`. -/
def MtuText (value : Chars) (v : Nat) : Prop := Decimal value v ∧ v ≤ 65535

theorem MtuText.stoi {value : Chars} {v : Nat} (h : MtuText value v) :
    stoi value = some (v : Int) := by
  obtain ⟨number, fits⟩ := h
  exact number.stoi (by omega)

/-- A file that is accepted sets `mtu` to the number its last value is, and any other is refused,
exactly when `std::stoi` refuses the value or it is a number of 16 bits: what comes after the first
digits is accepted, and so is a number that has to be cut. -/
theorem checksMtu_iff {text value : Chars} (assigned : lastAssigned "mtu".toList text = some value)
    (config : StackConfig) :
    (((parseFile (some text) config).1 = true →
        ∃ v, MtuText value v ∧ (parseFile (some text) config).2.mtu = UInt16.ofNat v) ∧
      ((¬ ∃ v, MtuText value v) → (parseFile (some text) config).1 = false)) ↔
      stoi value = none ∨ ∃ v, MtuText value v := by
  rw [← getElem?_lastAssigned] at assigned
  rw [parseFile]
  cases number : stoi value with
  | none =>
    rw [applyConfig_fails assigned number]
    exact iff_of_true ⟨fun accepted => absurd accepted Bool.false_ne_true, fun _ => rfl⟩ (.inl rfl)
  | some n =>
    have accepts := applyConfig_succeeds (fun v held => by
      cases assigned.symm.trans held
      rw [number]
      exact Option.some_ne_none n) config
    rw [assigned, Option.bind_some, number, Option.elim_some] at accepts
    rw [accepts]
    constructor
    · rintro ⟨set, -⟩
      obtain ⟨v, text, -⟩ := set rfl
      exact .inr ⟨v, text⟩
    · rintro (refused | ⟨v, text⟩)
      · cases refused
      · have same : n = v := Option.some.inj (number.symm.trans text.stoi)
        have cut : UInt16.ofInt n = UInt16.ofNat v := by
          rw [same, ofInt_natCast (Nat.lt_succ_of_le text.2)]
        exact ⟨fun _ => ⟨v, text, cut⟩, fun none => absurd ⟨v, text⟩ none⟩

theorem checksMtu_plain :
    lastAssigned "mtu".toList "mtu=1500".toList = some "1500".toList ∧
      ((parseFile (some "mtu=1500".toList) {}).1 = true →
        ∃ v, MtuText "1500".toList v ∧
          (parseFile (some "mtu=1500".toList) {}).2.mtu = UInt16.ofNat v) := by
  have assigned : lastAssigned "mtu".toList "mtu=1500".toList = some "1500".toList := by decide
  have text : MtuText "1500".toList 1500 := ⟨.plain (numeral_toDigits 1500), by decide⟩
  exact ⟨assigned, ((checksMtu_iff assigned {}).mpr (.inr ⟨1500, text⟩)).1⟩

/-- Too large for `mtu` and no larger than an `int`: 70000 becomes 4464. -/
theorem checksMtu_cut : ¬ ∀ text value config,
    lastAssigned "mtu".toList text = some value → (parseFile (some text) config).1 = true →
      ∃ v, MtuText value v ∧ (parseFile (some text) config).2.mtu = UInt16.ofNat v := by
  intro checks
  obtain ⟨v, text, -⟩ := checks "mtu=70000".toList "70000".toList {} (by decide) (by decide)
  have number : stoi "70000".toList = some 70000 := by decide
  have same : (70000 : Int) = v := Option.some.inj (number.symm.trans text.stoi)
  have := text.2
  omega

end ConfigParser

end Lwip
