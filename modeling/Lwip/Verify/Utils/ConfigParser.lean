import Mathlib.Data.List.Nodup
import Std.Data.ExtTreeMap.Lemmas
import Lwip.Utils.ConfigParser

/-! What a configuration file says. A line is an assignment (`parseLine_assigns`) or it is noise
(`parseLine_noise`); a key has the value of the last of its lines (`getElem?_readLines`), and a
file with one assignment to each of the four keys sets the whole configuration
(`parseFile_describes`). -/

namespace Lwip

namespace ConfigParser

open Std (ExtTreeMap)

/-! ## Lines -/

/-- `line` is `key = value`, with white space around both. -/
def Assigns (key value line : Chars) : Prop :=
  ∃ a b c d : Chars, Blank a ∧ Blank b ∧ Blank c ∧ Blank d ∧
    line = (a ++ key ++ b) ++ '=' :: (c ++ value ++ d)

/-- The keys that mean something. -/
def keys : List Chars :=
  ["interface".toList, "ip_address".toList, "netmask".toList, "mtu".toList]

/-- A comment, a line that assigns nothing, or one that assigns to another key. -/
inductive Noise : Chars → Prop where
  | comment (text : Chars) : Noise ('#' :: text)
  | other {line : Chars} (none : '=' ∉ line) : Noise line
  | unknown {a key b : Chars} (rest : Chars) (blank : Blank a) (blank' : Blank b)
      (key_trimmed : Trimmed key) (noEq : '=' ∉ key) (unknown : key ∉ keys) :
    Noise ((a ++ key ++ b) ++ '=' :: rest)

theorem noEq_of_blank {pad : Chars} (blank : Blank pad) : '=' ∉ pad :=
  fun mem => absurd (blank _ mem).1 (by decide)

/-- A line is split at its first `=`. -/
theorem parseLine_split {a key b rest : Chars} (blank : Blank a) (blank' : Blank b)
    (trimmed : Trimmed key) (noEq : '=' ∉ key) :
    parseLine ((a ++ key ++ b) ++ '=' :: rest) =
      if (a ++ key ++ b).head? = some '#' ∨ key = [] ∨ trim rest = [] then none
      else some (key, trim rest) := by
  have before : '=' ∉ a ++ key ++ b := by
    simp only [List.mem_append, not_or]
    exact ⟨⟨noEq_of_blank blank, noEq⟩, noEq_of_blank blank'⟩
  have none : (a ++ key ++ b).findIdx? (· == '=') = none :=
    List.findIdx?_eq_none_iff.mpr fun c mem =>
      beq_eq_false_iff_ne.mpr fun eq => before (eq ▸ mem)
  have found : ((a ++ key ++ b) ++ '=' :: rest).findIdx? (· == '=') =
      some (a ++ key ++ b).length := by
    rw [List.findIdx?_append, none, List.findIdx?_cons]
    simp
  have head : ((a ++ key ++ b) ++ '=' :: rest).head? = some '#' ↔
      (a ++ key ++ b).head? = some '#' := by
    cases a ++ key ++ b with
    | nil => simp
    | cons c s => rfl
  rw [parseLine, found]
  dsimp only
  rw [List.take_left, ← List.drop_drop, List.drop_left, List.drop_one, List.tail_cons,
    trimmed.trim_pad blank blank']
  by_cases comment : (a ++ key ++ b).head? = some '#'
  · rw [if_pos (.inr (head.mpr comment)), if_pos (.inl comment)]
  · rw [if_neg fun h => h.elim (by simp) fun h => comment (head.mp h)]
    by_cases empty : key = [] ∨ trim rest = []
    · rw [if_neg (by tauto), if_pos (.inr empty)]
    · rw [if_pos (by tauto), if_neg (by tauto)]

theorem keys_plain : ∀ key ∈ keys,
    Trimmed key ∧ '=' ∉ key ∧ '\n' ∉ key ∧ key ≠ [] ∧ key.head? ≠ some '#' := by
  decide

theorem parseLine_assigns {key value line : Chars} (known : key ∈ keys) (trimmed : Trimmed value)
    (nonempty : value ≠ []) (h : Assigns key value line) : parseLine line = some (key, value) := by
  obtain ⟨a, b, c, d, ha, hb, hc, hd, rfl⟩ := h
  obtain ⟨key_trimmed, noEq, -, key_nonempty, noHash⟩ := keys_plain key known
  have head : (a ++ key ++ b).head? ≠ some '#' := by
    cases a with
    | nil => cases key with
      | nil => exact absurd rfl key_nonempty
      | cons k key => exact noHash
    | cons ch a =>
      intro hash
      cases hash
      exact absurd (ha '#' List.mem_cons_self).1 (by decide)
  rw [parseLine_split ha hb key_trimmed noEq, trimmed.trim_pad hc hd, if_neg]
  rintro (hash | empty | empty)
  · exact head hash
  · exact key_nonempty empty
  · exact nonempty empty

theorem parseLine_noise {line : Chars} (noise : Noise line) {key value : Chars}
    (h : parseLine line = some (key, value)) : key ∉ keys := by
  cases noise with
  | comment text => cases h
  | other noEq =>
    have none : line.findIdx? (· == '=') = none :=
      List.findIdx?_eq_none_iff.mpr fun c mem => beq_eq_false_iff_ne.mpr fun eq => noEq (eq ▸ mem)
    rw [parseLine, none] at h
    split at h <;> cases h
  | unknown rest blank blank' trimmed noEq unknown =>
    rw [parseLine_split blank blank' trimmed noEq] at h
    split at h <;> cases h
    exact unknown

/-- The map of some lines has the last value of each key. -/
theorem getElem?_readLines (key : Chars) (lines : List Chars) :
    (lines.foldl readLine ∅)[key]? =
      ((lines.filterMap parseLine).filter (·.1 = key)).getLast?.map Prod.snd := by
  induction lines using List.reverseRecOn with
  | nil => rfl
  | append_singleton lines line ih =>
    rw [List.foldl_append, List.foldl_cons, List.foldl_nil, readLine, List.filterMap_append,
      List.filter_append, List.getLast?_append, List.filterMap_cons]
    cases parseLine line with
    | none => simpa using ih
    | some entry =>
      obtain ⟨k, v⟩ := entry
      by_cases same : k = key
      · simp [same]
      · simpa [ExtTreeMap.getElem?_insert, same] using ih

/-- A key that all its lines give one value has that value. -/
theorem getElem?_readLines_of_one {lines : List Chars} {key value : Chars}
    (one : ∀ line ∈ lines, ∀ v, parseLine line = some (key, v) → v = value)
    (some_line : ∃ line ∈ lines, parseLine line = some (key, value)) :
    (lines.foldl readLine ∅)[key]? = some value := by
  have given : ∀ {entry}, entry ∈ (lines.filterMap parseLine).filter (·.1 = key) ↔
      entry.1 = key ∧ ∃ line ∈ lines, parseLine line = some entry := by
    simp [and_comm]
  rw [getElem?_readLines]
  cases last : ((lines.filterMap parseLine).filter (·.1 = key)).getLast? with
  | none =>
    obtain ⟨line, mem, assigns⟩ := some_line
    rw [List.getLast?_eq_none_iff] at last
    exact absurd (last ▸ given.mpr ⟨rfl, line, mem, assigns⟩) List.not_mem_nil
  | some entry =>
    obtain ⟨k, v⟩ := entry
    obtain ⟨rfl, line, mem, assigns⟩ := given.mp (List.mem_of_getLast? last)
    exact congrArg some (one line mem v assigns)

/-! ## Entries -/

/-- What is left of the map gives `key` good values only, and one unless it has been set. -/
def Settled (good : Chars → Prop) (set : Prop) (key : Chars) (entries : List (Chars × Chars)) :
    Prop :=
  (∀ v, (key, v) ∈ entries → good v) ∧ (set ∨ ∃ v, (key, v) ∈ entries)

variable {good : Chars → Prop} {set set' : Prop} {key k v : Chars} {entries : List (Chars × Chars)}

theorem Settled.nil (h : Settled good set key []) : set :=
  h.2.resolve_right fun ⟨_, mem⟩ => by cases mem

theorem Settled.skip (h : Settled good set key ((k, v) :: entries)) (ne : key ≠ k) :
    Settled good set key entries := by
  refine ⟨fun v' mem => h.1 v' (List.mem_cons_of_mem _ mem), h.2.imp_right fun ⟨v', mem⟩ => ?_⟩
  rcases List.mem_cons.mp mem with eq | mem
  · exact absurd (congrArg Prod.fst eq) ne
  · exact ⟨v', mem⟩

theorem Settled.take (h : Settled good set key ((key, v) :: entries)) (done : good v → set') :
    Settled good set' key entries :=
  ⟨fun v' mem => h.1 v' (List.mem_cons_of_mem _ mem), .inl (done (h.1 v List.mem_cons_self))⟩

theorem applyEntries_eq {config target : StackConfig} {mtu : Int}
    (value : UInt16.ofInt mtu = target.mtu)
    (h₁ : Settled (· = target.interfaceName) (config.interfaceName = target.interfaceName)
      "interface".toList entries)
    (h₂ : Settled (· = target.ipAddress) (config.ipAddress = target.ipAddress)
      "ip_address".toList entries)
    (h₃ : Settled (· = target.netmask) (config.netmask = target.netmask)
      "netmask".toList entries)
    (h₄ : Settled (stoi · = some mtu) (config.mtu = target.mtu) "mtu".toList entries) :
    applyEntries config entries = (true, target) := by
  induction config, entries using applyEntries.induct with
  | case1 config =>
    have e₁ := h₁.nil
    have e₂ := h₂.nil
    have e₃ := h₃.nil
    have e₄ := h₄.nil
    cases config
    cases target
    cases e₁
    cases e₂
    cases e₃
    cases e₄
    rfl
  | case2 config v rest ih =>
    rw [applyEntries, if_pos rfl]
    exact ih (h₁.take id) (h₂.skip (by decide)) (h₃.skip (by decide)) (h₄.skip (by decide))
  | case3 config v rest ne₁ ih =>
    rw [applyEntries, if_neg ne₁, if_pos rfl]
    exact ih (h₁.skip (Ne.symm ne₁)) (h₂.take id) (h₃.skip (by decide)) (h₄.skip (by decide))
  | case4 config v rest ne₁ ne₂ ih =>
    rw [applyEntries, if_neg ne₁, if_neg ne₂, if_pos rfl]
    exact ih (h₁.skip (Ne.symm ne₁)) (h₂.skip (Ne.symm ne₂)) (h₃.take id) (h₄.skip (by decide))
  | case5 config v rest n number ne₁ ne₂ ne₃ ih =>
    cases number.symm.trans (h₄.1 v List.mem_cons_self)
    rw [applyEntries, if_neg ne₁, if_neg ne₂, if_neg ne₃, if_pos rfl, number]
    exact ih (h₁.skip (Ne.symm ne₁)) (h₂.skip (Ne.symm ne₂)) (h₃.skip (Ne.symm ne₃))
      (h₄.take fun _ => value)
  | case6 config v rest noNumber =>
    cases noNumber.symm.trans (h₄.1 v List.mem_cons_self)
  | case7 config key v rest ne₁ ne₂ ne₃ ne₄ ih =>
    rw [applyEntries, if_neg ne₁, if_neg ne₂, if_neg ne₃, if_neg ne₄]
    exact ih (h₁.skip (Ne.symm ne₁)) (h₂.skip (Ne.symm ne₂)) (h₃.skip (Ne.symm ne₃))
      (h₄.skip (Ne.symm ne₄))

/-! ## Files -/

/-- A file with one assignment to each of the four keys, in any order and with noise between. -/
def Describes (text interface ipAddress netmask : Chars) (mtu : Nat) : Prop :=
  ∃ lines noise line₁ line₂ line₃ line₄ digits,
    lines.Perm ([line₁, line₂, line₃, line₄] ++ noise) ∧ TextOf lines text ∧
    (∀ line ∈ noise, Noise line ∧ '\n' ∉ line) ∧
    Assigns "interface".toList interface line₁ ∧ Assigns "ip_address".toList ipAddress line₂ ∧
    Assigns "netmask".toList netmask line₃ ∧ Numeral digits mtu ∧
    Assigns "mtu".toList digits line₄

/-- A value that a line can give. -/
structure Value (s : Chars) : Prop where
  nonempty : s ≠ []
  trimmed : Trimmed s
  oneLine : '\n' ∉ s

theorem value_numeral {s : Chars} {n : Nat} (h : Numeral s n) : Value s where
  nonempty := h.nonempty
  trimmed := h.trimmed
  oneLine := fun mem => absurd (h.digits _ mem) (by decide)

theorem oneLine_assigns {key value line : Chars} (known : key ∈ keys) (h : Value value)
    (assigns : Assigns key value line) : '\n' ∉ line := by
  obtain ⟨a, b, c, d, ha, hb, hc, hd, rfl⟩ := assigns
  have blank : ∀ {pad : Chars}, Blank pad → '\n' ∉ pad := fun blank mem => (blank _ mem).2 rfl
  obtain ⟨-, -, key_oneLine, -, -⟩ := keys_plain key known
  simp only [List.mem_append, List.mem_cons, not_or]
  exact ⟨⟨⟨blank ha, key_oneLine⟩, blank hb⟩, by decide, ⟨blank hc, h.oneLine⟩, blank hd⟩

/-- The file gives a key the value that all its lines for the key give. -/
theorem getElem?_file {text : Chars} {lines : List Chars} {key value : Chars}
    (file : TextOf lines text) (each : ∀ line ∈ lines, '\n' ∉ line)
    (one : ∀ line ∈ lines, ∀ v, parseLine line = some (key, v) → v = value)
    (some_line : ∃ line ∈ lines, parseLine line = some (key, value)) :
    ((getlines text).foldl readLine ∅)[key]? = some value := by
  have whole : (getlines text).foldl readLine ∅ = lines.foldl readLine ∅ := by
    rcases file.getlines each with same | more
    · rw [same]
    · rw [more, List.foldl_append]
      rfl
  rw [whole]
  exact getElem?_readLines_of_one one some_line

/-- Among lines that each assign to a key of its own, and noise, each key gets its value. -/
theorem getElem?_assigned {text : Chars} {lines noise : List Chars}
    {assigned : List (Chars × Chars × Chars)} (file : TextOf lines text)
    (perm : lines.Perm (assigned.map (·.2.2) ++ noise))
    (quiet : ∀ line ∈ noise, Noise line ∧ '\n' ∉ line)
    (known : ∀ a ∈ assigned, a.1 ∈ keys ∧ Value a.2.1 ∧ Assigns a.1 a.2.1 a.2.2)
    (distinct : (assigned.map Prod.fst).Nodup) {a : Chars × Chars × Chars} (ha : a ∈ assigned) :
    ((getlines text).foldl readLine ∅)[a.1]? = some a.2.1 := by
  have parsed : ∀ a ∈ assigned, parseLine a.2.2 = some (a.1, a.2.1) := by
    intro a mem
    obtain ⟨key, value, assigns⟩ := known a mem
    exact parseLine_assigns key value.trimmed value.nonempty assigns
  have sort : ∀ line ∈ lines, (∃ a ∈ assigned, a.2.2 = line) ∨ line ∈ noise := by
    intro line mem
    exact (List.mem_append.mp (perm.mem_iff.mp mem)).imp_left List.mem_map.mp
  refine getElem?_file file ?_ ?_ ⟨a.2.2, ?_, parsed a ha⟩
  · intro line mem
    rcases sort line mem with ⟨b, hb, rfl⟩ | mem
    · obtain ⟨key, value, assigns⟩ := known b hb
      exact oneLine_assigns key value assigns
    · exact (quiet line mem).2
  · intro line mem v h
    rcases sort line mem with ⟨b, hb, rfl⟩ | mem
    · rw [parsed b hb, Option.some.injEq, Prod.mk.injEq] at h
      rw [← h.2, List.inj_on_of_nodup_map distinct hb ha h.1]
    · exact absurd (known a ha).1 (parseLine_noise (quiet line mem).1 h)
  · exact perm.mem_iff.mpr (List.mem_append_left _ (List.mem_map_of_mem ha))

/-- Nothing is cut off a number that fits in 16 bits. -/
theorem ofInt_natCast {n : Nat} (fits : n < 65536) : UInt16.ofInt n = UInt16.ofNat n :=
  congrArg UInt16.ofNat (by omega : ((n : Int) % 2 ^ 16).toNat = n)

theorem settled_toList {values : ExtTreeMap Chars Chars} {key value : Chars} {good : Chars → Prop}
    {set : Prop} (held : values[key]? = some value) (h : good value) :
    Settled good set key values.toList := by
  refine ⟨fun v mem => ?_, .inr ⟨value, ?_⟩⟩
  · rw [ExtTreeMap.mem_toList_iff_getElem?_eq_some, held] at mem
    cases mem
    exact h
  · rw [ExtTreeMap.mem_toList_iff_getElem?_eq_some, held]

/-- Such a file sets the whole configuration, whatever it was before. -/
theorem parseFile_describes {text interface ipAddress netmask : Chars} {mtu : Nat}
    (file : Describes text interface ipAddress netmask mtu) (h₁ : Value interface)
    (h₂ : Value ipAddress) (h₃ : Value netmask) (h₄ : mtu < 65536) (config : StackConfig) :
    parseFile (some text) config =
      (true, { interfaceName := interface, ipAddress, netmask, mtu := UInt16.ofNat mtu }) := by
  obtain ⟨lines, noise, line₁, line₂, line₃, line₄, digits, perm, text, quiet, a₁, a₂, a₃, numeral,
    a₄⟩ := file
  let assigned : List (Chars × Chars × Chars) :=
    [("interface".toList, interface, line₁), ("ip_address".toList, ipAddress, line₂),
      ("netmask".toList, netmask, line₃), ("mtu".toList, digits, line₄)]
  have distinct : (assigned.map Prod.fst).Nodup := (by decide : keys.Nodup)
  have known : ∀ a ∈ assigned, a.1 ∈ keys ∧ Value a.2.1 ∧ Assigns a.1 a.2.1 a.2.2 := by
    simp only [assigned, List.forall_mem_cons]
    exact ⟨⟨by decide, h₁, a₁⟩, ⟨by decide, h₂, a₂⟩, ⟨by decide, h₃, a₃⟩,
      ⟨by decide, value_numeral numeral, a₄⟩, fun _ mem => by cases mem⟩
  have held : ∀ a ∈ assigned, ((getlines _).foldl readLine ∅)[a.1]? = some a.2.1 := fun _ mem =>
    getElem?_assigned text perm quiet known distinct mem
  simp only [assigned, List.forall_mem_cons] at held
  obtain ⟨g₁, g₂, g₃, g₄, -⟩ := held
  rw [parseFile, applyConfig]
  exact applyEntries_eq (ofInt_natCast h₄) (settled_toList g₁ rfl) (settled_toList g₂ rfl)
    (settled_toList g₃ rfl) (settled_toList g₄ (numeral.stoi (by omega)))

/-- A file with a comment, padding, a carriage return and no newline at its end. -/
def sampleFile : Chars :=
  "# tun\ninterface=tun1\nmtu = 1400\n\tip_address=10.0.0.1\r\nnetmask=255.0.0.0".toList

theorem parseFile_sampleFile : parseFile (some sampleFile) {} =
    (true, { interfaceName := "tun1".toList, ipAddress := "10.0.0.1".toList,
             netmask := "255.0.0.0".toList, mtu := UInt16.ofNat 1400 }) := by
  have file : Describes sampleFile "tun1".toList "10.0.0.1".toList "255.0.0.0".toList 1400 :=
    ⟨["# tun".toList, "interface=tun1".toList, "mtu = 1400".toList,
        "\tip_address=10.0.0.1\r".toList, "netmask=255.0.0.0".toList],
      ["# tun".toList], "interface=tun1".toList, "\tip_address=10.0.0.1\r".toList,
      "netmask=255.0.0.0".toList, "mtu = 1400".toList, "1400".toList, by decide,
      .inr (by decide),
      (fun line mem => by
        cases List.mem_singleton.mp mem
        exact ⟨.comment " tun".toList, by decide⟩),
      ⟨[], [], [], [], by decide, by decide, by decide, by decide, by decide⟩,
      ⟨['\t'], [], [], ['\r'], by decide, by decide, by decide, by decide, by decide⟩,
      ⟨[], [], [], [], by decide, by decide, by decide, by decide, by decide⟩,
      numeral_toDigits 1400,
      ⟨[], [' '], [' '], [], by decide, by decide, by decide, by decide, by decide⟩⟩
  exact parseFile_describes file ⟨by decide, by decide, by decide⟩ ⟨by decide, by decide, by decide⟩
    ⟨by decide, by decide, by decide⟩ (by decide) {}

end ConfigParser

end Lwip
