import Mathlib.Data.List.Nodup
import Framecast.Proofs.Json.Spelling
import Framecast.Proofs.Message.Document

/-!
# The members of a configuration document

A configuration document gives some of the five fields, in any order and with any other members
among them. However it is spelled, it is read as the configuration that has the fields it gives, and
the defaults otherwise (`SessionConfig.document_by_members`). So neither the order of the members
matters nor what else there is, as long as no field is given twice and every name is a string of
characters.
-/

namespace Framecast

open Json

/-- A field of a configuration with its value. -/
inductive ConfigField
  | outputUrl (url : String)
  | outputFormat (format : Option String)
  | quality (tier : Tier)
  | codec (family : Codec)
  | fps (fps : UInt32)
deriving DecidableEq, Repr

namespace ConfigField

/-- The names of the fields in a document. -/
def names : List String := ["output_url", "output_format", "quality", "codec", "fps"]

/-- The name of a field in a document. -/
def name : ConfigField → String
  | outputUrl _ => "output_url"
  | outputFormat _ => "output_format"
  | quality _ => "quality"
  | codec _ => "codec"
  | fps _ => "fps"

/-- The values that a field can have in a document. -/
inductive Given : ConfigField → Json → Prop
  | outputUrl (url : String) : Given (.outputUrl url) (.text url)
  | noFormat : Given (.outputFormat none) .null
  | format (format : String) : Given (.outputFormat (some format)) (.text format)
  /-- A choice is its name, or its name with nothing. -/
  | quality (tier : Tier) : Given (.quality tier) (.text tier.name)
  | qualityAlone (tier : Tier) : Given (.quality tier) (.struct [(tier.name, .null)])
  | codec (family : Codec) : Given (.codec family) (.text family.name)
  | codecAlone (family : Codec) : Given (.codec family) (.struct [(family.name, .null)])
  /-- A frame rate is a number of 32 bits, written in digits and nothing else. -/
  | fps {digits : List Char} {fps : UInt32} (worth : Numeral.value digits = fps.toNat) :
      Given (.fps fps) (.number ⟨false, digits, none, none⟩)

end ConfigField

/-! ## The fields of a configuration -/

namespace SessionConfig

variable {c c' : SessionConfig} {f g : ConfigField} {fs fs' : List ConfigField}

/-- The fields of a configuration. -/
def fields (c : SessionConfig) : List ConfigField :=
  [.outputUrl c.outputUrl, .outputFormat c.outputFormat, .quality c.quality, .codec c.codec,
    .fps c.fps]

/-- A configuration has these fields, and the defaults of those that are not among them. -/
structure Has (c : SessionConfig) (fs : List ConfigField) : Prop where
  given : ∀ f ∈ fs, f ∈ c.fields
  absent : ∀ f ∈ c.fields, f.name ∉ fs.map ConfigField.name → f ∈ ({} : SessionConfig).fields

/-- A configuration has a field of each name. -/
theorem exists_mem_fields (c : SessionConfig) (f : ConfigField) :
    ∃ g ∈ c.fields, g.name = f.name := by
  cases f <;> simp [fields, ConfigField.name]

/-- A configuration has only one field of each name. -/
theorem eq_of_mem_fields (hf : f ∈ c.fields) (hg : g ∈ c.fields) (same : f.name = g.name) :
    f = g := by
  have hnodup : (c.fields.map ConfigField.name).Nodup := by
    show ConfigField.names.Nodup
    decide
  exact List.inj_on_of_nodup_map hnodup hf hg same

/-- What has the same fields is the same configuration. -/
theorem Has.unique (h : c.Has fs) (h' : c'.Has fs') (same : fs.Perm fs') : c = c' := by
  have hsub : ∀ f ∈ c.fields, f ∈ c'.fields := by
    intro f hf
    by_cases hname : f.name ∈ fs.map ConfigField.name
    · obtain ⟨g, hg, hsame⟩ := List.mem_map.mp hname
      obtain rfl := eq_of_mem_fields (h.given g hg) hf hsame
      exact h'.given g (same.mem_iff.mp hg)
    · -- Both configurations have the default.
      obtain ⟨g, hg, hsame⟩ := c'.exists_mem_fields f
      have hname' : g.name ∉ fs'.map ConfigField.name := by
        rwa [hsame, ← (same.map ConfigField.name).mem_iff]
      obtain rfl := eq_of_mem_fields (h'.absent g hg hname') (h.absent f hf hname) hsame
      exact hg
  obtain ⟨url, format, quality, codec, fps⟩ := c
  obtain ⟨url', format', quality', codec', fps'⟩ := c'
  simpa [fields] using hsub

end SessionConfig

namespace ConfigField

/-- A field comes from a document that gives these fields: it is one of them, or the default of one
that is not among them. -/
def Sourced (fs : List ConfigField) (f : ConfigField) : Prop :=
  f ∈ fs ∨ f.name ∉ fs.map name ∧ f ∈ ({} : SessionConfig).fields

/-- A configuration each field of which comes from a document has the fields that the document
gives, if it gives none of them twice. -/
theorem has_of_sourced {c : SessionConfig} {fs : List ConfigField} (once : (fs.map name).Nodup)
    (sourced : ∀ f ∈ c.fields, f.Sourced fs) : c.Has fs := by
  constructor
  · intro f hf
    obtain ⟨g, hg, hsame⟩ := c.exists_mem_fields f
    rcases sourced g hg with hgiven | ⟨habsent, -⟩
    · obtain rfl := List.inj_on_of_nodup_map once hgiven hf hsame
      exact hg
    · rw [hsame] at habsent
      exact absurd (List.mem_map_of_mem hf) habsent
  · intro f hf habsent
    rcases sourced f hf with hgiven | ⟨-, hdefault⟩
    · exact absurd (List.mem_map_of_mem hgiven) habsent
    · exact hdefault

/-! ## Reading one field -/

/-- A reader reads the field of a name from each value that the field can have. -/
structure Reads {α : Type} (name : String) (field : α → ConfigField) (read : Json → Option α)
    (d : α) : Prop where
  known : name ∈ names
  /-- The fields of that name are those with some value. -/
  named : ∀ f : ConfigField, f.name = name ↔ ∃ a, f = field a
  read : ∀ a v, (field a).Given v → read v = some a
  default : field d ∈ ({} : SessionConfig).fields

/-- The address of the output is read as a text. -/
theorem reads_outputUrl :
    Reads "output_url" .outputUrl asString? ({} : SessionConfig).outputUrl where
  known := by decide
  named f := by cases f <;> simp [name]
  read := by
    rintro url v ⟨⟩
    rfl
  default := by simp [SessionConfig.fields]

/-- The format of the output is read as a text, or as none. -/
theorem reads_outputFormat :
    Reads "output_format" .outputFormat (asOption? asString?)
      ({} : SessionConfig).outputFormat where
  known := by decide
  named f := by cases f <;> simp [name]
  read := by rintro format v ⟨⟩ <;> rfl
  default := by simp [SessionConfig.fields]

/-- The tier is read by its name. -/
theorem reads_quality :
    Reads "quality" .quality Tier.ofJson? ({} : SessionConfig).quality where
  known := by decide
  named f := by cases f <;> simp [name]
  read := by rintro tier v ⟨⟩ <;> cases tier <;> rfl
  default := by simp [SessionConfig.fields]

/-- The codec is read by its name. -/
theorem reads_codec : Reads "codec" .codec Codec.ofJson? ({} : SessionConfig).codec where
  known := by decide
  named f := by cases f <;> simp [name]
  read := by rintro family v ⟨⟩ <;> cases family <;> rfl
  default := by simp [SessionConfig.fields]

/-- Digits are read as the number of 32 bits that they are worth. -/
theorem asUInt32?_digits {digits : List Char} {n : UInt32}
    (worth : Numeral.value digits = n.toNat) :
    asUInt32? (.number ⟨false, digits, none, none⟩) = some n := by
  have hread : asNat? UInt32.size (.number ⟨false, digits, none, none⟩) = some n.toNat := by
    rw [asNat?.eq_1]
    simp [Numeral.toNat?, worth, n.toNat_lt_size]
  rw [asUInt32?, hread, Option.map_some, UInt32.ofNat_toNat]

/-- The frame rate is read as a number of 32 bits. -/
theorem reads_fps : Reads "fps" .fps asUInt32? ({} : SessionConfig).fps where
  known := by decide
  named f := by cases f <;> simp [name]
  read := by
    intro fps v given
    cases given with
    | fps worth => exact asUInt32?_digits worth
  default := by simp [SessionConfig.fields]

end ConfigField

/-- The members of a document give these fields, in this order, with members of other names among
them. -/
inductive Gives : List (Option String × Json) → List ConfigField → Prop
  | nothing : Gives [] []
  | field {f : ConfigField} {v : Json} {ms : List (Option String × Json)} {fs : List ConfigField}
      (value : f.Given v) (rest : Gives ms fs) : Gives ((some f.name, v) :: ms) (f :: fs)
  | other {name : String} {v : Json} {ms : List (Option String × Json)} {fs : List ConfigField}
      (unknown : name ∉ ConfigField.names) (rest : Gives ms fs) : Gives ((some name, v) :: ms) fs

/-! ## Members -/

/-- The members of a name are as many as the name occurs. -/
theorem Json.countMembers_eq_count (name : String) (ms : List (Option String × Json)) :
    countMembers name ms = (ms.map Prod.fst).count (some name) := by
  unfold countMembers List.count
  rw [List.countP_map]
  refine List.countP_congr fun m _ => ?_
  simp

/-- A record with two members of one field is refused. -/
theorem Json.fields?_of_repeated {names : List String} {name : String}
    {ms : List (Option String × Json)} (known : name ∈ names)
    (repeated : 1 < (ms.map Prod.fst).count (some name)) : fields? names (.object ms) = none := by
  have hnot : names.all (fun name => countMembers name ms ≤ 1) = false := by
    refine List.all_eq_false.mpr ⟨name, known, ?_⟩
    rw [countMembers_eq_count]
    simpa using repeated
  rw [fields?.eq_1, hnot, Bool.and_false, if_neg (by decide)]

/-- A record with a name that has no characters is refused. -/
theorem Json.fields?_of_unpaired {names : List String} {v : Json}
    {ms : List (Option String × Json)} (unpaired : (none, v) ∈ ms) :
    fields? names (.object ms) = none := by
  have hnot : ms.all (·.1.isSome) = false :=
    List.all_eq_false.mpr ⟨(none, v), unpaired, by simp⟩
  rw [fields?.eq_1, hnot, Bool.false_and, if_neg (by decide)]

section Gives

variable {ms : List (Option String × Json)} {fs : List ConfigField}

/-- All names of such members are strings of characters. -/
theorem Gives.named (h : Gives ms fs) : ms.all (·.1.isSome) = true := by
  induction h with
  | nothing => rfl
  | field _ _ ih | other _ _ ih => exact ih

/-- A field occurs among the members as often as it is given. -/
theorem Gives.count (h : Gives ms fs) {name : String} (known : name ∈ ConfigField.names) :
    (ms.map Prod.fst).count (some name) = (fs.map ConfigField.name).count name := by
  induction h with
  | nothing => rfl
  | field _ _ ih => simp [List.count_cons, ih]
  | other unknown _ ih =>
    have hne := (ne_of_mem_of_not_mem known unknown).symm
    simp [hne, ih]

/-- The record of members that give no field twice has their values. -/
theorem Gives.fields?_eq (h : Gives ms fs) (once : (fs.map ConfigField.name).Nodup) :
    fields? ConfigField.names (.object ms) = some (ConfigField.names.map (member? · ms)) := by
  have honce : ConfigField.names.all (fun name => countMembers name ms ≤ 1) = true := by
    refine List.all_eq_true.mpr fun name hname => decide_eq_true ?_
    rw [countMembers_eq_count, h.count hname]
    exact List.nodup_iff_count.mp once name
  rw [fields?.eq_1, h.named, honce, Bool.and_self, if_pos rfl]

/-- Of the members that give a field, one is read; if there is none, the default is taken. -/
theorem Gives.exists_orDefault (h : Gives ms fs) {α : Type} {name : String}
    {field : α → ConfigField} {read : Json → Option α} {d : α}
    (reads : ConfigField.Reads name field read d) :
    ∃ a, orDefault d read (member? name ms) = some a ∧ (field a).Sourced fs := by
  induction h with
  | nothing => exact ⟨d, rfl, .inr ⟨List.not_mem_nil, reads.default⟩⟩
  | @field f v ms fs value _ ih =>
    by_cases hf : f.name = name
    · -- The first member of that name is the one that is read.
      obtain ⟨a, rfl⟩ := (reads.named f).mp hf
      refine ⟨a, ?_, .inl List.mem_cons_self⟩
      rw [hf, member?_cons_self]
      exact reads.read a v value
    · obtain ⟨a, hread, ha⟩ := ih
      refine ⟨a, ?_, ?_⟩
      · rwa [member?_cons_of_ne hf]
      · rcases ha with ha | ⟨habsent, hdefault⟩
        · exact .inl (List.mem_cons_of_mem _ ha)
        · refine .inr ⟨?_, hdefault⟩
          rw [List.map_cons, List.mem_cons, not_or]
          refine ⟨?_, habsent⟩
          rw [(reads.named _).mpr ⟨a, rfl⟩]
          exact Ne.symm hf
  | other unknown _ ih =>
    obtain ⟨a, hread, ha⟩ := ih
    refine ⟨a, ?_, ha⟩
    rwa [member?_cons_of_ne (ne_of_mem_of_not_mem reads.known unknown).symm]

end Gives

/-! ## Documents -/

namespace SessionConfig

variable {ms : List (Option String × Json)} {fs : List ConfigField}

/-- Members that give no field twice are read as the configuration that has those fields. -/
theorem ofJson?_of_gives (gives : Gives ms fs) (once : (fs.map ConfigField.name).Nodup) :
    ∃ c : SessionConfig, c.Has fs ∧ ofJson? (.object ms) = some c := by
  obtain ⟨url, hurl, hurl'⟩ := gives.exists_orDefault ConfigField.reads_outputUrl
  obtain ⟨format, hformat, hformat'⟩ := gives.exists_orDefault ConfigField.reads_outputFormat
  obtain ⟨quality, hquality, hquality'⟩ := gives.exists_orDefault ConfigField.reads_quality
  obtain ⟨codec, hcodec, hcodec'⟩ := gives.exists_orDefault ConfigField.reads_codec
  obtain ⟨fps, hfps, hfps'⟩ := gives.exists_orDefault ConfigField.reads_fps
  refine ⟨⟨url, format, quality, codec, fps⟩, ConfigField.has_of_sourced once ?_, ?_⟩
  · simp only [fields, List.forall_mem_cons, List.not_mem_nil]
    exact ⟨hurl', hformat', hquality', hcodec', hfps', fun _ h => absurd h id⟩
  · have hfields := gives.fields?_eq once
    dsimp only at hurl hformat hquality hcodec hfps
    simp only [ConfigField.names, List.map_cons, List.map_nil] at hfields
    simp [ofJson?, hfields, hurl, hformat, hquality, hcodec, hfps]

/-- A document without a configuration is malformed. -/
theorem ofText_malformed {text : String} (h : (parse? text).bind ofJson? = none) :
    ofText text = .error .malformed := by
  unfold ofText
  rw [h]

/-- An object whose fields cannot be told is no configuration. -/
theorem ofText_of_fields? {text : String} (spelled : DocumentSpelled (.object ms) text.toList)
    (refused : fields? ConfigField.names (.object ms) = none) :
    ofText text = .error .malformed := by
  refine ofText_malformed ?_
  simp only [ConfigField.names] at refused
  rw [parse?_of_spelled spelled, Option.bind_some, ofJson?, refused]
  rfl

/-- A document that gives fields, none of them twice, and has members of other names, is read as
the configuration that has those fields and the defaults of the others, if that is valid. Its
members can come in any order, hold anything if they are of other names, and be spelled in any way.
Two documents that give the same fields are read alike. A document with two members of one field
is malformed, and so is one with a name that has half of a surrogate pair in it. -/
theorem document_by_members :
    (∀ (text : String) (ms : List (Option String × Json)) (fs : List ConfigField),
      DocumentSpelled (.object ms) text.toList → Gives ms fs →
      (fs.map ConfigField.name).Nodup →
      ∃ c : SessionConfig, c.Has fs ∧ ofText text = c.validate.bind fun _ => .ok c) ∧
    (∀ (text text' : String) (ms ms' : List (Option String × Json)) (fs fs' : List ConfigField),
      DocumentSpelled (.object ms) text.toList → DocumentSpelled (.object ms') text'.toList →
      Gives ms fs → Gives ms' fs' → (fs.map ConfigField.name).Nodup → fs.Perm fs' →
      ofText text = ofText text') ∧
    (∀ (text : String) (ms : List (Option String × Json)),
      DocumentSpelled (.object ms) text.toList →
      (∃ name ∈ ConfigField.names, 1 < (ms.map Prod.fst).count (some name)) ∨
        none ∈ ms.map Prod.fst →
      ofText text = .error .malformed) := by
  have hread : ∀ {text ms fs}, DocumentSpelled (.object ms) text.toList → Gives ms fs →
      (fs.map ConfigField.name).Nodup →
      ∃ c : SessionConfig, c.Has fs ∧ ofText text = c.validate.bind fun _ => .ok c := by
    intro text ms fs spelled gives once
    obtain ⟨c, hhas, hc⟩ := ofJson?_of_gives gives once
    refine ⟨c, hhas, ofText_of_read ?_⟩
    rw [parse?_of_spelled spelled, Option.bind_some, hc]
  refine ⟨fun text ms fs => hread, ?_, ?_⟩
  · intro text text' ms ms' fs fs' spelled spelled' gives gives' once same
    obtain ⟨c, hhas, hc⟩ := hread spelled gives once
    obtain ⟨c', hhas', hc'⟩ := hread spelled' gives' ((same.map _).nodup_iff.mp once)
    -- A configuration is determined by the fields that were given, in whatever order.
    obtain rfl := hhas.unique hhas' same
    rw [hc, hc']
  · rintro text ms spelled (⟨name, known, repeated⟩ | unpaired)
    · exact ofText_of_fields? spelled (fields?_of_repeated known repeated)
    · obtain ⟨⟨_, v⟩, hv, rfl⟩ := List.mem_map.mp unpaired
      exact ofText_of_fields? spelled (fields?_of_unpaired hv)

/-- A document with blanks, and in front of its frame rate a member of another name that holds half
of a surrogate pair, is read as the configuration with that frame rate. -/
theorem document_by_members_sample :
    let ms : List (Option String × Json) :=
      [(some "x", .array [.string none]), (some "fps", .nat 30)]
    DocumentSpelled (.object ms) "\x7b\"x\":[\"\\ud800\"], \"fps\" : 30\x7d".toList ∧
      Gives ms [.fps 30] ∧
      ofText "\x7b\"x\":[\"\\ud800\"], \"fps\" : 30\x7d" = .ok { fps := 30 } := by
  intro ms
  have hspace : Blank [' '] := by simp [Blank, isBlank]
  have hhalf : Spelled (.string none) (quoteText none) := .string (quoteText_spelled none)
  have hitems : Spelled (.array [.string none]) ('[' :: (quoteText none ++ [']'])) :=
    @Spelled.items _ [] _ blank_nil (@ItemsSpelled.last _ _ [] hhalf blank_nil)
  have hnumber : Spelled (.nat 30) ['3', '0'] := .number (Numeral.spelled_ofNat 30)
  have hmembers : MembersSpelled ms
      (quoteText (some "x") ++ ':' :: ('[' :: (quoteText none ++ [']']) ++ ',' :: ' ' ::
        (quoteText (some "fps") ++ [' ', ':', ' ', '3', '0', '\x7d']))) :=
    .more (quoteText_spelled _) blank_nil blank_nil hitems blank_nil hspace
      (.last (quoteText_spelled _) hspace hspace hnumber blank_nil)
  have hspelled : DocumentSpelled (.object ms)
      "\x7b\"x\":[\"\\ud800\"], \"fps\" : 30\x7d".toList :=
    .around blank_nil (.members blank_nil hmembers) blank_nil
  have hgives : Gives ms [.fps 30] :=
    .other (by decide) (.field (f := .fps 30) (.fps (by decide)) .nothing)
  have hthirty : ({ fps := 30 } : SessionConfig).Has [.fps 30] :=
    ⟨by simp [fields], by simp [fields, ConfigField.name]⟩
  obtain ⟨c, hhas, hc⟩ := document_by_members.1 _ ms [.fps 30] hspelled hgives (by simp)
  obtain rfl := hhas.unique hthirty (.refl _)
  exact ⟨hspelled, hgives, hc⟩

/-- A document whose only member has another name, half of a surrogate pair, is malformed, although
the configuration with all defaults is valid. -/
theorem unpaired_name_refused :
    DocumentSpelled (.object [(none, .nat 1)]) "\x7b\"\\ud800\":1\x7d".toList ∧
      (∀ name ∈ ConfigField.names, some name ∉ [(none, Json.nat 1)].map Prod.fst) ∧
      ({} : SessionConfig).Has [] ∧ ({} : SessionConfig).validate = .ok () ∧
      ofText "\x7b\"\\ud800\":1\x7d" = .error .malformed := by
  have hnumber : Spelled (.nat 1) ['1'] := .number (Numeral.spelled_ofNat 1)
  have hspelled : DocumentSpelled (.object [(none, .nat 1)])
      "\x7b\"\\ud800\":1\x7d".toList :=
    .around blank_nil (.members blank_nil
      (.last (quoteText_spelled none) blank_nil blank_nil hnumber blank_nil)) blank_nil
  have hdefault : ({} : SessionConfig).Has [] := ⟨by simp, fun f hf _ => hf⟩
  exact ⟨hspelled, by simp, hdefault, rfl,
    ofText_of_fields? hspelled (fields?_of_unpaired List.mem_cons_self)⟩

end SessionConfig

end Framecast
