import YTPipe.Text

/-!
# Summary output

`broker_summary.py`. `none` is a `ValueError`.
-/

namespace YTPipe.Broker

def thinkTags : List Text := ["<think".toList, "</think>".toList]

def bullet : Char := '•'

/-- `line.startswith("•") and line[1:].strip()`. -/
def isBullet (line : Text) : Bool :=
  Text.startsWith [bullet] line && !(Text.strip (line.drop 1)).isEmpty

/-- `re.match(r"(?:#|```|~~~)", line) or re.match(r"1[.)] ", line)`. -/
def isMarkdown (line : Text) : Bool :=
  ["#", "```", "~~~", "1. ", "1) "].any (fun mark => Text.startsWith mark.toList line)

/-- `re.fullmatch(r"[A-ZÁÉÍÓÚÜÑ ]+", line)`. -/
def isCapitals (line : Text) : Bool :=
  !line.isEmpty && line.all (fun c => ('A' ≤ c && c ≤ 'Z') || "ÁÉÍÓÚÜÑ ".toList.contains c)

def headings : List Text := ["RESUMEN".toList, "PUNTOS CLAVE".toList, "CONCLUSIÓN".toList]

def trailing (c : Char) : Bool := c == ' ' || c == '\t'

def blank (line : Text) : Bool := (Text.strip line).isEmpty

def validateBrokerOutput (value : Text) : Option Text :=
  let normalized := Text.strip (Text.normalizeNewlines value)
  let lines := (Text.splitOn Text.newline normalized).map (Text.rstrip trailing)
  if normalized.isEmpty || thinkTags.any (fun tag => Text.contains tag (Text.casefold normalized))
  then none
  else if lines.any (fun line => isMarkdown (Text.lstrip Text.isSpace line)) then none
  else if (headings.take 2).any (fun h => lines.count h ≠ 1) || lines.count (headings.getD 2 []) > 1
  then none
  else
    let positions := (headings.filter lines.contains).map lines.idxOf
    if ¬ positions.Pairwise (· ≤ ·)
        ∨ positions.any (fun i => Text.strip (lines.getD i []) ≠ lines.getD i []) then none
    else if lines.any (fun line => isCapitals line && !headings.contains line) then none
    else
      let resumen := (lines.take (positions.getD 1 0)).drop (positions.getD 0 0 + 1)
      let conclusionAt := positions.getD 2 lines.length
      let points := (lines.take conclusionAt).drop (positions.getD 1 0 + 1)
      let conclusion := lines.drop (conclusionAt + 1)
      if resumen.all blank || (positions.length == 3 && conclusion.all blank) then none
      else
        let bullets := points.filter (!blank ·)
        if bullets.isEmpty || bullets.any (!isBullet ·) then none
        else if points.any (fun line => !blank line && !Text.startsWith [bullet] line) then none
        else some (Text.join [Text.newline] lines)

/-- The smaller output of a partial summary: bullets only. -/
def validateBrokerPartialOutput (value : Text) : Option Text :=
  let normalized := Text.strip (Text.normalizeNewlines value)
  let lines := ((Text.splitOn Text.newline normalized).filter (!blank ·)).map (Text.rstrip trailing)
  if lines.isEmpty || lines.any (!isBullet ·) then none
  else if thinkTags.any (fun tag => Text.contains tag (Text.casefold normalized)) then none
  else some (Text.join [Text.newline] lines)

theorem isBullet_ne_nil {line : Text} (h : isBullet line = true) : line ≠ [] := by
  rintro rfl
  simp [isBullet, Text.startsWith] at h

/-- A valid partial summary has text. -/
theorem validateBrokerPartialOutput_ne_nil {value output : Text}
    (h : validateBrokerPartialOutput value = some output) : output ≠ [] := by
  simp only [validateBrokerPartialOutput] at h
  split at h
  · cases h
  · next hb =>
    split at h
    · cases h
    · cases h
      intro hnil
      have empty := Text.join_eq_nil hnil
      generalize ((Text.splitOn Text.newline (Text.strip (Text.normalizeNewlines value))).filter
        (!blank ·)).map (Text.rstrip trailing) = lines at hb empty
      cases lines with
      | nil => simp at hb
      | cons line lines =>
        have hline : isBullet line = true := by
          simp only [List.any_cons, Bool.or_eq_true, not_or] at hb
          simpa using hb.2.1
        exact isBullet_ne_nil hline (empty line (List.mem_cons_self ..))

end YTPipe.Broker
