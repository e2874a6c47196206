/-
# Negotiation.Proofs.RoundTrip -- writing a version and reading it again

The text of a version is a version from its first character on, so nothing in its tag can
mislead the reader, not even what looks like another version. A tag is read to the end of
its line. Hence a version comes back as it was exactly if its tag stays in one line, and
no other version is ever read.
-/

import Negotiation.Proofs.VersionText

namespace Negotiation.Version

variable {v w : Version} {text : String}

/-! ## What is read -/

/-- The tag stays in one line. -/
def IsOneLine (v : Version) : Prop :=
  ∀ tag ∈ v.tag, '\n' ∉ tag.toList

theorem isOneLine_of_parse? (h : parse? text = some v) : v.IsOneLine := by
  obtain ⟨s, hs, hread⟩ := Option.bind_eq_some_iff.mp h
  obtain ⟨m, hgreedy, hvalue⟩ := exists_isGreedy hs
  have hmeans : m.Means v := Match.version?_eq_some_iff.mp (hvalue.symm.trans hread)
  intro tag htag
  -- the tag is that of the match, whose optional parts are written in one line
  rw [hmeans.tag] at htag
  obtain ⟨line, hline, rfl⟩ := Option.map_eq_some_iff.mp htag
  obtain ⟨⟨patch, tag⟩, htail, rfl⟩ := Option.bind_eq_some_iff.mp hline
  have hwritten := hgreedy.spells.tail
  rw [htail] at hwritten
  rw [String.toList_ofList]
  exact hwritten.2 line rfl

theorem ofBson_string_eq_ok_iff : ofBson (.string text) = .ok v ↔ parse? text = some v := by
  cases hparse : parse? text <;>
    simp [ofBson, Reader.spelled, Reader.text, Outcome.ofDecode, hparse, bind, Except.bind]

/-- Only texts are read as versions. -/
theorem ofBson_eq_ok_iff {value : Bson} :
    ofBson value = .ok v ↔ ∃ text, value = .string text ∧ parse? text = some v := by
  constructor
  · intro h
    cases value with
    | string text => exact ⟨text, rfl, ofBson_string_eq_ok_iff.mp h⟩
    | _ => cases h
  · rintro ⟨text, rfl, hparse⟩
    exact ofBson_string_eq_ok_iff.mpr hparse

/-! ## What is written -/

/-- The parts of a version that is written, behind its minor number. -/
def writtenTail (v : Version) : Tail :=
  some ((Numeral.render v.release.patch).toList, v.tag.map String.toList)

theorem toList_render (v : Version) :
    v.render.toList =
      (Numeral.render v.release.major).toList
        ++ '.' :: ((Numeral.render v.release.minor).toList ++ v.writtenTail.text) := by
  obtain ⟨release, tag⟩ := v
  cases tag <;> simp [render, Release.render, writtenTail, Tail.text, tagText]

theorem IsOneLine.isWritten (h : v.IsOneLine) : v.writtenTail.IsWritten := by
  refine ⟨Numeral.isDigits_render _, ?_⟩
  intro line hline
  obtain ⟨tag, htag, rfl⟩ := Option.map_eq_some_iff.mp hline
  exact h tag htag

theorem means_written (v : Version) :
    Match.Means ⟨[], (Numeral.render v.release.major).toList,
      (Numeral.render v.release.minor).toList, v.writtenTail, []⟩ v := by
  refine ⟨(Numeral.value_render _).symm, (Numeral.value_render _).symm,
    (Numeral.value_render _).symm, ?_⟩
  cases h : v.tag <;> simp [writtenTail, h]

/-- A version is read back from its text exactly if its tag stays in one line. -/
theorem parse?_render_iff : parse? v.render = some v ↔ v.IsOneLine := by
  constructor
  · exact isOneLine_of_parse?
  · intro h
    rw [parse?_eq_version? (toList_render v) (Numeral.isDigits_render _)
      (Numeral.isDigits_render _) h.isWritten]
    exact Match.version?_eq_some_iff.mpr (means_written v)

theorem parse_render_iff : parse v.render = .ok v ↔ v.IsOneLine :=
  parse_eq_ok_iff.trans parse?_render_iff

theorem ofBson_toBson_iff : ofBson v.toBson = .ok v ↔ v.IsOneLine :=
  ofBson_string_eq_ok_iff.trans parse?_render_iff

theorem render_inj (hv : v.IsOneLine) (hw : w.IsOneLine) : v.render = w.render ↔ v = w := by
  constructor
  · intro h
    have hread := parse?_render_iff.mpr hv
    rw [h, parse?_render_iff.mpr hw] at hread
    exact (Option.some.inj hread).symm
  · exact congrArg render

/-! ## Round trips -/

/-- Texts and document values of versions, for all numbers and all tags:

* a version is read back from its text, and from its document value, exactly if its tag
  stays in one line; then it is the same version, with the same tag and so with the same
  meaning of the tag;
* every version that is read from a text or a document value is such a version, so that
  writing it and reading it again changes nothing;
* versions that are read differ exactly if their texts do. -/
theorem text_round_trip :
    (∀ v : Version,
      (parse v.render = .ok v ↔ ∀ tag ∈ v.tag, '\n' ∉ tag.toList)
      ∧ (ofBson v.toBson = .ok v ↔ ∀ tag ∈ v.tag, '\n' ∉ tag.toList))
    ∧ (∀ text v, parse text = .ok v →
        (∀ tag ∈ v.tag, '\n' ∉ tag.toList) ∧ parse v.render = .ok v ∧ ofBson v.toBson = .ok v)
    ∧ (∀ value v, ofBson value = .ok v →
        (∀ tag ∈ v.tag, '\n' ∉ tag.toList) ∧ parse v.render = .ok v ∧ ofBson v.toBson = .ok v)
    ∧ (∀ text text' v v', parse text = .ok v → parse text' = .ok v' →
        (v.render = v'.render ↔ v = v')) := by
  have hread : ∀ text v, parse? text = some v →
      v.IsOneLine ∧ parse v.render = .ok v ∧ ofBson v.toBson = .ok v := by
    intro text v h
    have hline := isOneLine_of_parse? h
    exact ⟨hline, parse_render_iff.mpr hline, ofBson_toBson_iff.mpr hline⟩
  refine ⟨fun v => ⟨parse_render_iff, ofBson_toBson_iff⟩, ?_, ?_, ?_⟩
  · intro text v h
    exact hread text v (parse_eq_ok_iff.mp h)
  · intro value v h
    obtain ⟨text, -, hparse⟩ := ofBson_eq_ok_iff.mp h
    exact hread text v hparse
  · intro text text' v v' h h'
    apply render_inj
    · exact isOneLine_of_parse? (parse_eq_ok_iff.mp h)
    · exact isOneLine_of_parse? (parse_eq_ok_iff.mp h')

example : parse (tagged 4 2 0 "1.2.3-rc1 -").render = .ok (tagged 4 2 0 "1.2.3-rc1 -") := by
  decide

end Negotiation.Version
