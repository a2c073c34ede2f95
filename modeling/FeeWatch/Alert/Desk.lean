import FeeWatch.Alert.Hook
import FeeWatch.Fee.Status

/-! Alerts on changes of state.

The desk watches two states, the market's and the monitor's health, and announces
a state that differs from the one announced last. After each announcement it keeps
quiet for a while about that state; a change that is still there when the quiet
period is over is announced then. -/
namespace FeeWatch.Alert

open FeeWatch.Calendar (Instant)
open FeeWatch.Fee (Market Health Snapshot Status)

/-- The state announced last, and when. -/
structure Announced (σ : Type) where
  state : σ
  time : Instant
deriving DecidableEq, Repr

/-- A desk that announces changes. -/
structure Desk where
  hook : Hook
  /-- The quiet period in seconds. -/
  quiet : Number
  market : Announced Market
  health : Announced Health
deriving Repr

namespace Desk

/-- A desk that has announced nothing yet. -/
def make (target : Datum) (quiet : Number) (replies : List Reply) : Desk :=
  ⟨⟨target, replies, 0, []⟩, quiet, ⟨.normal, .earliest⟩, ⟨.healthy, .earliest⟩⟩

instance : Inhabited Desk := ⟨make .null 0 []⟩

/-- Whether the quiet period after an announcement is over. -/
def quieted (d : Desk) (last now : Instant) : Bool :=
  Calendar.Span.reaches (now.since last) d.quiet

def isDue {σ : Type} [DecidableEq σ] (d : Desk) (last : Announced σ) (state : σ)
    (now : Instant) : Bool :=
  state != last.state && d.quieted last.time now

def marketMessage (s : Snapshot) (now : Instant) : Datum :=
  .record [("type", .text "fee_congestion_change"), ("state", .text s.market.word),
    ("snapshot", s.report), ("ts", .text now.text)]

/-- The message about the monitor's health, with the report of its status. -/
def healthMessage (report : Datum) (now : Instant) : Datum :=
  .record [("type", .text "engine_health_change"), ("status", report), ("ts", .text now.text)]

/-- Announces the market of a snapshot if it is due. -/
def noticeMarket (d : Desk) (s : Snapshot) (now : Instant) :
    Except Hook.Fault Bool × Desk × Log :=
  if d.isDue d.market s.market now then
    let before := Hook.say .info s!"Congestion state changed to {s.market.word}, sending alert"
    match d.hook.post (marketMessage s now) with
    | (.ok _, hook, log) =>
      (.ok true, { d with hook, market := ⟨s.market, now⟩ }, before ++ log)
    | (.error f, hook, log) => (.error f, { d with hook }, before ++ log)
  else (.ok false, d, [])

/-- Announces a health, with the report it is part of, if it is due. -/
def announceHealth (d : Desk) (health : Health) (report : Datum) (now : Instant) :
    Except Hook.Fault Bool × Desk × Log :=
  if d.isDue d.health health now then
    let before := Hook.say .info s!"Engine health changed to {health.word}, sending alert"
    match d.hook.post (healthMessage report now) with
    | (.ok _, hook, log) =>
      (.ok true, { d with hook, health := ⟨health, now⟩ }, before ++ log)
    | (.error f, hook, log) => (.error f, { d with hook }, before ++ log)
  else (.ok false, d, [])

/-- Announces the health of a status if it is due. -/
def noticeHealth (d : Desk) (s : Status) (now : Instant) :
    Except Hook.Fault Bool × Desk × Log :=
  d.announceHealth s.health s.report now

end Desk
end FeeWatch.Alert
