import RecordMapper.Event
import RecordMapper.Text.Boundary

/-!
The text of a statement as it is logged. It is the whole text when there is no limit or the text does
not exceed it, and else the longest beginning of whole characters within the limit, with three points
behind it. Cutting the bytes of the text comes to the same and never hits the inside of a character.
-/

namespace RecordMapper

theorem byteLength_toList (s : String) : byteLength s.toList = s.utf8ByteSize := by
  rw [← length_utf8, utf8_toList, Array.length_toList]
  rfl

/-- The beginning of a text that takes at most `most` bytes and is as long as it can be. -/
structure LongestWithin (most : Nat) (cs kept : List Char) : Prop where
  begins : kept <+: cs
  fits : byteLength kept ≤ most
  longest : ∀ other, other <+: cs → byteLength other ≤ most → other <+: kept

theorem longestWithin_clip (most : Nat) (cs : List Char) : LongestWithin most cs (clip most cs) where
  begins := clip_begins most cs
  fits := byteLength_clip_le most cs
  longest _ := prefix_clip

theorem LongestWithin.overflows {most : Nat} {cs kept : List Char} (h : LongestWithin most cs kept)
    (hlong : most < byteLength cs) :
    ∃ next behind, cs = kept ++ next :: behind ∧ most < byteLength (kept ++ [next]) := by
  obtain ⟨behind, rfl⟩ := h.begins
  cases behind with
  | nil =>
    rw [List.append_nil] at hlong
    exact absurd h.fits (Nat.not_le_of_lt hlong)
  | cons next behind =>
    refine ⟨next, behind, rfl, Nat.lt_of_not_le fun hfits => ?_⟩
    have hle := (h.longest (kept ++ [next]) ⟨behind, by simp⟩ hfits).length_le
    rw [List.length_append, List.length_singleton] at hle
    exact absurd hle (Nat.not_succ_le_self _)

namespace Logger

/-- The logged text, cut in its bytes; there is none if a character would be cut. -/
def cutSql? (logger : Logger) (sql : String) : Option String :=
  match logger.maxSqlLength with
  | none => some sql
  | some most =>
    if most < sql.utf8ByteSize then (cutBack? most sql.toList).map (String.ofList · ++ "...")
    else some sql

theorem clipSql_of_some {logger : Logger} {most : Nat} (h : logger.maxSqlLength = some most)
    (sql : String) : logger.clipSql sql =
      if most < sql.utf8ByteSize then String.ofList (clip most sql.toList) ++ "..." else sql := by
  rw [clipSql, h]
  dsimp only
  rw [byteLength_toList, String.ofList_append]

theorem cutSql?_eq (logger : Logger) (sql : String) :
    logger.cutSql? sql = some (logger.clipSql sql) := by
  cases h : logger.maxSqlLength with
  | none => rw [cutSql?, clipSql, h]
  | some most =>
    rw [cutSql?, clipSql_of_some h, h]
    dsimp only
    split
    · rw [cutBack?_eq, Option.map_some]
    · rfl

/-- A text is logged whole when it has room, and else the longest beginning of it that has; the place
of the cut, which is moved back to a boundary, always ends at one. -/
theorem logged_whole_or_longest (logger : Logger) (sql : String) :
    (logger.maxSqlLength = none → logger.clipSql sql = sql) ∧
    (∀ most, logger.maxSqlLength = some most → sql.utf8ByteSize ≤ most →
      logger.clipSql sql = sql) ∧
    (∀ most, logger.maxSqlLength = some most → most < sql.utf8ByteSize →
      ∃ kept next behind, logger.clipSql sql = String.ofList kept ++ "..." ∧
        LongestWithin most sql.toList kept ∧
        sql.toList = kept ++ next :: behind ∧ most < byteLength (kept ++ [next]) ∧
        sliceTo? sql.toList (backOff (utf8 sql.toList) most) = some kept) ∧
    (∀ most, isBoundary (utf8 sql.toList) (backOff (utf8 sql.toList) most) = true ∧
      backOff (utf8 sql.toList) most ≤ most) ∧
    logger.cutSql? sql = some (logger.clipSql sql) := by
  refine ⟨?_, ?_, ?_, fun most => ⟨isBoundary_backOff _ most, backOff_le _ most⟩,
    logger.cutSql?_eq sql⟩
  · intro hnone
    rw [clipSql, hnone]
  · intro most hmost hfits
    rw [clipSql_of_some hmost, if_neg (Nat.not_lt_of_le hfits)]
  · intro most hmost hlong
    have hclip := clipSql_of_some hmost sql
    rw [if_pos hlong] at hclip
    rw [← byteLength_toList] at hlong
    have hkept := longestWithin_clip most sql.toList
    obtain ⟨next, behind, hsql, hnext⟩ := hkept.overflows hlong
    have hcut := cutBack?_eq most sql.toList
    rw [cutBack?, if_neg (Nat.not_le_of_lt hlong)] at hcut
    exact ⟨_, next, behind, hclip, hkept, hsql, hnext, hcut⟩

theorem logged_whole_or_longest_inside :
    2 < "héllo".utf8ByteSize ∧
    (⟨.debug, some 2, true⟩ : Logger).clipSql "héllo" = "h..." ∧
    (⟨.debug, some 0, true⟩ : Logger).clipSql "héllo" = "..." ∧
    (⟨.debug, some 6, true⟩ : Logger).clipSql "héllo" = "héllo" := by
  have hsize : "héllo".utf8ByteSize = 6 := by decide
  have hcut (most : Nat) (hmost : most < 6) :
      ∃ kept, (⟨.debug, some most, true⟩ : Logger).clipSql "héllo" = String.ofList kept ++ "..." ∧
        sliceTo? "héllo".toList (backOff (utf8 "héllo".toList) most) = some kept := by
    obtain ⟨-, -, hlong, -⟩ := logged_whole_or_longest ⟨.debug, some most, true⟩ "héllo"
    obtain ⟨kept, _, _, hclip, -, -, -, hslice⟩ := hlong most rfl (by rwa [hsize])
    exact ⟨kept, hclip, hslice⟩
  obtain ⟨kept, hkept, hslice⟩ := hcut 2 (by decide)
  obtain ⟨none, hnone, hempty⟩ := hcut 0 (by decide)
  obtain rfl : ['h'] = kept := Option.some.inj hslice
  obtain rfl : [] = none := Option.some.inj hempty
  obtain ⟨-, hwhole, -⟩ := logged_whole_or_longest ⟨.debug, some 6, true⟩ "héllo"
  exact ⟨by decide, hkept, hnone, hwhole 6 rfl (by decide)⟩

end Logger

end RecordMapper
