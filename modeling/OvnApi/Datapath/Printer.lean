import Mathlib.Data.Nat.Notation
import OvnApi.Core.Python

/-! `show_dpif` of `dpctl.c`, the printer of what `_parse_dpctl_show` reads. A datapath prints
its name, its statistics unless they could not be queried, the sizes of its caches, and its
ports. -/

namespace OvnApi.Datapath

open OvnApi.Core

/-- A text without line separators. -/
structure Text where
  chars : List Char
  noBreak : ∀ c ∈ chars, isLineBreak c = false

def natText (n : ℕ) : List Char := Nat.toDigits 10 n

/-- What `%.2f` prints of a quotient. -/
structure Figure where
  units : ℕ
  hundredths : Fin 100

def Figure.text (figure : Figure) : List Char :=
  natText figure.units ++ '.' :: natText (figure.hundredths / 10) ++
    natText (figure.hundredths % 10)

def Figure.zero : Figure := ⟨0, 0⟩

/-- `struct dpif_dp_stats`. -/
structure DpStats where
  nHit : UInt64
  nMissed : UInt64
  nLost : UInt64
  nFlows : UInt64
  nMasks : UInt32
  nMaskHit : UInt64
  nCacheHit : UInt64

/-- Why the configuration of a port is not shown, or its keys and values. -/
inductive PortConfig where
  | openFailed (error : Text)
  | getFailed (error : Text)
  | config (entries : List (Text × Text))

structure Port where
  portNo : UInt32
  name : Text
  type : Text
  config : PortConfig

/-- What a datapath answers: the statistics if they can be queried, the caches if it has any,
those of them whose name and size can be queried, and its ports in order. -/
structure Dpif where
  name : Text
  stats : Option DpStats
  caches : Option (List (Text × UInt32))
  ports : List Port

/-- The lines that `show_dpif` prints. -/
inductive Line where
  | name (label : Text)
  | lookups (hit missed lost : UInt64)
  | flows (n : UInt64)
  | masks (hit : UInt64) (total : UInt32) (hitPerPkt : Figure)
  | cache (hit : UInt64) (hitRate : Figure)
  | caches
  | cacheSize (label : Text) (size : UInt32)
  | port (p : Port)

def entryText (separator : Char) (entry : Text × Text) : List Char :=
  separator :: ' ' :: entry.1.chars ++ '=' :: entry.2.chars

def PortConfig.text : PortConfig → List Char
  | .openFailed error =>
    [':', ' ', 'o', 'p', 'e', 'n', ' ', 'f', 'a', 'i', 'l', 'e', 'd', ' ', '('] ++
      error.chars ++ [')']
  | .getFailed error =>
    [',', ' ', 'c', 'o', 'u', 'l', 'd', ' ', 'n', 'o', 't', ' ', 'r', 'e', 't', 'r', 'i', 'e', 'v',
      'e', ' ', 'c', 'o', 'n', 'f', 'i', 'g', 'u', 'r', 'a', 't', 'i', 'o', 'n', ' ', '('] ++
      error.chars ++ [')']
  | .config [] => []
  | .config (entry :: entries) => entryText ':' entry ++ entries.flatMap (entryText ',')

/-- The part of a port line after its number. -/
def Port.text (port : Port) : List Char :=
  port.name.chars ++
    if port.type.chars = ['s', 'y', 's', 't', 'e', 'm'] then []
    else ' ' :: '(' :: port.type.chars ++ port.config.text ++ [')']

def Line.text : Line → List Char
  | .name label => label.chars ++ [':']
  | .lookups hit missed lost =>
    [' ', ' ', 'l', 'o', 'o', 'k', 'u', 'p', 's', ':', ' ', 'h', 'i', 't', ':'] ++
      natText hit.toNat ++ [' ', 'm', 'i', 's', 's', 'e', 'd', ':'] ++ natText missed.toNat ++
      [' ', 'l', 'o', 's', 't', ':'] ++ natText lost.toNat
  | .flows n => [' ', ' ', 'f', 'l', 'o', 'w', 's', ':', ' '] ++ natText n.toNat
  | .masks hit total hitPerPkt =>
    [' ', ' ', 'm', 'a', 's', 'k', 's', ':', ' ', 'h', 'i', 't', ':'] ++ natText hit.toNat ++
      [' ', 't', 'o', 't', 'a', 'l', ':'] ++ natText total.toNat ++
      [' ', 'h', 'i', 't', '/', 'p', 'k', 't', ':'] ++ hitPerPkt.text
  | .cache hit hitRate =>
    [' ', ' ', 'c', 'a', 'c', 'h', 'e', ':', ' ', 'h', 'i', 't', ':'] ++ natText hit.toNat ++
      [' ', 'h', 'i', 't', '-', 'r', 'a', 't', 'e', ':'] ++ hitRate.text ++ ['%']
  | .caches => [' ', ' ', 'c', 'a', 'c', 'h', 'e', 's', ':']
  | .cacheSize label size =>
    [' ', ' ', ' ', ' '] ++ label.chars ++ [':', ' ', 's', 'i', 'z', 'e', ':'] ++ natText size.toNat
  | .port p => [' ', ' ', 'p', 'o', 'r', 't', ' '] ++ natText p.portNo.toNat ++ [':', ' '] ++ p.text

/-- The quotients, as the C library computes and prints them. -/
structure Quotients where
  hitPerPkt : UInt64 → UInt64 → Figure
  hitRate : UInt64 → UInt64 → Figure

variable (quotients : Quotients)

def DpStats.lines (stats : DpStats) : List Line :=
  let nPkts := stats.nHit + stats.nMissed
  [.lookups stats.nHit stats.nMissed stats.nLost, .flows stats.nFlows] ++
    if stats.nMasks ≠ 0xffffffff then
      .masks stats.nMaskHit stats.nMasks
          (if nPkts ≠ 0 then quotients.hitPerPkt stats.nMaskHit nPkts else .zero) ::
        if stats.nCacheHit ≠ 0xffffffffffffffff then
          [.cache stats.nCacheHit
            (if nPkts ≠ 0 then quotients.hitRate stats.nCacheHit nPkts else .zero)]
        else []
    else []

/-- `show_dpif_cache__`. -/
def cacheLines : Option (List (Text × UInt32)) → List Line
  | none => []
  | some caches => .caches :: caches.map fun cache => .cacheSize cache.1 cache.2

def showDpif (dpif : Dpif) : List Line :=
  .name dpif.name :: (dpif.stats.elim [] (DpStats.lines quotients)) ++ cacheLines dpif.caches ++
    dpif.ports.map .port

def showText (dpifs : List Dpif) : String :=
  String.ofList ((dpifs.flatMap (showDpif quotients)).flatMap fun line => line.text ++ ['\n'])

end OvnApi.Datapath
