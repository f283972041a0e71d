import OvnApi.Core.Numerals
import OvnApi.Lib.Float
import OvnApi.Lib.Regex

/-! `_parse_dpctl_show`: the counters of all datapaths, summed over the lines of
`ovs-appctl dpctl/show` that one of four regular expressions accepts. Texts are lists of
characters here. -/

namespace OvnApi.Datapath

open OvnApi.Core Lib Lib.Regex

/-- `\d` of a pattern over strings. -/
def isDecimal (c : Char) : Bool := (digitValue c).isSome

/-- `[0-9.]`. -/
def isFigure (c : Char) : Bool := c.isDigit || c == '.'

/-- `\s*`. -/
def blanks : Piece := .many isSpace 0 none

/-- `\s+`. -/
def gap : Piece := .many isSpace 1 none

/-- `(?P<name>\d+)`. -/
def number (name : String) : Piece := .many isDecimal 1 (some name)

/-- `^\s*lookups:\s*hit:(?P<hit>\d+)\s+missed:(?P<missed>\d+)\s+lost:(?P<lost>\d+)\s*$`. -/
def lookupsRe : Pattern :=
  [blanks, .lit ['l', 'o', 'o', 'k', 'u', 'p', 's', ':'], blanks, .lit ['h', 'i', 't', ':'],
    number "hit", gap, .lit ['m', 'i', 's', 's', 'e', 'd', ':'], number "missed", gap,
    .lit ['l', 'o', 's', 't', ':'], number "lost", blanks]

/-- `^\s*flows:\s*(?P<flows>\d+)\s*$`. -/
def flowsRe : Pattern :=
  [blanks, .lit ['f', 'l', 'o', 'w', 's', ':'], blanks, number "flows", blanks]

/-- `^\s*masks:\s*hit:(?P<hit>\d+)\s+total:(?P<total>\d+)\s+hit/pkt:(?P<hit_per_pkt>[0-9.]+)\s*$`. -/
def masksRe : Pattern :=
  [blanks, .lit ['m', 'a', 's', 'k', 's', ':'], blanks, .lit ['h', 'i', 't', ':'], number "hit",
    gap, .lit ['t', 'o', 't', 'a', 'l', ':'], number "total", gap,
    .lit ['h', 'i', 't', '/', 'p', 'k', 't', ':'], .many isFigure 1 (some "hit_per_pkt"), blanks]

/-- `^\s*cache:\s*hit:(?P<hit>\d+)\s+hit-rate:(?P<hit_rate>[0-9.]+)%\s*$`. -/
def cacheRe : Pattern :=
  [blanks, .lit ['c', 'a', 'c', 'h', 'e', ':'], blanks, .lit ['h', 'i', 't', ':'], number "hit",
    gap, .lit ['h', 'i', 't', '-', 'r', 'a', 't', 'e', ':'], .many isFigure 1 (some "hit_rate"),
    .lit ['%'], blanks]

/-- What `sys.set_int_max_str_digits` admits; zero stands for no limit. -/
structure IntLimit where
  digits : ℕ
  valid : digits = 0 ∨ 640 ≤ digits

/-- `int(match.group(name))`. -/
def IntLimit.groupInt (limit : IntLimit) (groups : Groups) (name : String) : Except Exc ℤ :=
  match pyInt limit.digits (String.ofList ((groups.lookup name).getD [])) with
  | .ok n => .ok n
  | .error message => .error (.other "ValueError" message)

structure Totals where
  lookupsHit : ℤ := 0
  lookupsMissed : ℤ := 0
  lookupsLost : ℤ := 0
  datapathFlows : ℤ := 0
  totalMaskHits : ℤ := 0
  totalCacheHits : ℤ := 0
  hasMaskStats : Bool := false
  hasCacheStats : Bool := false
  hasDatapathStats : Bool := false
  deriving DecidableEq

def IntLimit.parseLine (limit : IntLimit) (totals : Totals) (line : String) : Except Exc Totals :=
  match lookupsRe.firstMatch line.toList with
  | some groups => do
    let hit ← limit.groupInt groups "hit"
    let missed ← limit.groupInt groups "missed"
    let lost ← limit.groupInt groups "lost"
    pure { totals with
      lookupsHit := totals.lookupsHit + hit
      lookupsMissed := totals.lookupsMissed + missed
      lookupsLost := totals.lookupsLost + lost
      hasDatapathStats := true }
  | none =>
    match flowsRe.firstMatch line.toList with
    | some groups => do
      let flows ← limit.groupInt groups "flows"
      pure { totals with
        datapathFlows := totals.datapathFlows + flows
        hasDatapathStats := true }
    | none =>
      match masksRe.firstMatch line.toList with
      | some groups => do
        let hit ← limit.groupInt groups "hit"
        pure { totals with
          totalMaskHits := totals.totalMaskHits + hit
          hasMaskStats := true }
      | none =>
        match cacheRe.firstMatch line.toList with
        | some groups => do
          let hit ← limit.groupInt groups "hit"
          pure { totals with
            totalCacheHits := totals.totalCacheHits + hit
            hasCacheStats := true }
        | none => pure totals

structure DatapathMetrics where
  datapathFlows : ℤ
  lookupsHit : ℤ
  lookupsMissed : ℤ
  lookupsLost : ℤ
  cacheHitRate : Option PyFloat
  maskHitPerPkt : Option PyFloat
  deriving DecidableEq

def noStats : Exc :=
  .http 500 "Failed to parse datapath stats from 'ovs-appctl dpctl/show' output."

/-- `a / b` of integers, `b` not zero: the exact quotient is rounded once. -/
def trueDiv (a b : ℤ) : Except Exc PyFloat :=
  match nearestDouble (a / b) with
  | some q => .ok (.fin q)
  | none => .error (.other "OverflowError" "integer division result too large for a float")

def Totals.metrics (totals : Totals) : Except Exc DatapathMetrics :=
  if totals.hasDatapathStats then do
    let totalPackets := totals.lookupsHit + totals.lookupsMissed
    let cacheHitRate ←
      if totals.hasCacheStats ∧ totalPackets ≠ 0 then do
        let rate ← trueDiv totals.totalCacheHits totalPackets
        pure (some (rate.nsmul 100).round3)
      else pure none
    let maskHitPerPkt ←
      if totals.hasMaskStats ∧ totalPackets ≠ 0 then do
        let rate ← trueDiv totals.totalMaskHits totalPackets
        pure (some rate.round3)
      else pure none
    pure {
      datapathFlows := totals.datapathFlows
      lookupsHit := totals.lookupsHit
      lookupsMissed := totals.lookupsMissed
      lookupsLost := totals.lookupsLost
      cacheHitRate
      maskHitPerPkt }
  else .error noStats

def IntLimit.parseDpctlShow (limit : IntLimit) (raw : String) : Except Exc DatapathMetrics := do
  let totals ← (splitLines raw).foldlM limit.parseLine {}
  totals.metrics

end OvnApi.Datapath
