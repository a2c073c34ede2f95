import FeeWatch.Datum.Access

/-! The default settings document.

It gives every setting that the program reads. A setting that a document does not
give has the value that it has here, and the document itself is written where none is
found. -/
namespace FeeWatch.Config

def defaultDocument : Datum := .record [
  ("horizon", .record [
    ("url", .text "https://horizon.stellar.org"),
    ("timeout_secs", .int 10),
    ("batch_size", .int 200),
    ("max_pages", .int 5)]),
  ("polling", .record [
    ("poll_secs", .int 10),
    ("window_max_points", .int 1000),
    ("window_max_age_secs", .int 3600),
    ("snapshot_policy", .text "always"),
    ("failure_threshold", .int 3),
    ("shutdown_grace_secs", .int 30)]),
  ("congestion", .record [
    ("base_fee", .int 100),
    ("avg_multiplier", .text "2.0"),
    ("absolute_ceiling", .null),
    ("max_fee_ceiling", .null),
    ("hysteresis_margin", .text "0.2"),
    ("enter_cycles", .int 1)]),
  ("storage", .record [
    ("enabled", .bool true),
    ("backend", .text "sqlite"),
    ("db_path", .text "state/fee_insights.db"),
    ("jsonl_dir", .text "state/records")]),
  ("alerts", .record [
    ("webhook_url", .text ""),
    ("min_change_secs", .int 300)]),
  ("logging", .record [
    ("level", .text "INFO"),
    ("log_dir", .text "logs"),
    ("console_level", .text "INFO"),
    ("rotation", .record [
      ("max_bytes", .int 10485760),
      ("backup_count", .int 30),
      ("when", .text "midnight")])])]

/-- The default of a setting, null for one that the program does not know. -/
def defaultOf (path : List String) : Datum :=
  path.foldl (fun d key => (d.get? key).getD .null) defaultDocument

end FeeWatch.Config
