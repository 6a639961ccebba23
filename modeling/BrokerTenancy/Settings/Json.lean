import BrokerTenancy.Json.Decoder
import BrokerTenancy.Settings.Decoder

/-!
Settings as JSON.
-/

namespace BrokerTenancy

namespace Json

/-- Every value is written as its own kind; null stands for no value. -/
def settingsReader : SettingsReader Json where
  text := asText
  word := asWord
  boolean := asBoolean
  backend := asChoice StoreBackend.name StoreBackend.all
  isAbsent json := json == .null
  items := asList some
  fields names json := (json.asRecord names).map (·.given)

end Json

namespace StoreSettings

def toJson (settings : StoreSettings) : Json :=
  .record [
    ("backend", .ofText settings.backend.name),
    ("data_dir", .ofText settings.dataDirectory),
    ("topic_prefix", .ofText settings.topicPrefix),
    ("write_timeout_ms", .ofNat settings.writeTimeout),
    ("init_timeout_ms", .ofNat settings.initTimeout),
    ("poll_interval_ms", .ofNat settings.pollInterval),
    ("max_poll_records", .ofNat settings.pollRecords)]

end StoreSettings

namespace CycleSettings

def toJson (settings : CycleSettings) : Json :=
  .record [
    ("interval_ms", .ofNat settings.interval),
    ("initial_delay_ms", .ofNat settings.initialDelay),
    ("admin_timeout_ms", .ofNat settings.adminTimeout)]

end CycleSettings

namespace SecuritySettings

def toJson (settings : SecuritySettings) : Json :=
  .record [("admin_group", .ofText settings.adminGroup)]

end SecuritySettings

namespace ClusterSettings

def toJson (cluster : ClusterSettings) : Json :=
  .record [
    ("name", .ofText cluster.name),
    ("bootstrap_servers", .ofText cluster.bootstrapServers),
    ("manage_acls", .boolean cluster.manageAcls),
    ("drop_unsynced_acls", .boolean cluster.dropUnsynced),
    ("managed_users_only", .boolean cluster.managedUsersOnly),
    ("admin_timeout_ms", .ofOption .ofNat cluster.adminTimeout)]

def ofJson (json : Json) : Option ClusterSettings := Json.settingsReader.cluster json

end ClusterSettings

namespace Settings

def toJson (settings : Settings) : Json :=
  .record [
    ("log_level", .ofText settings.logLevel),
    ("store", settings.store.toJson),
    ("reconciler", settings.cycle.toJson),
    ("security", settings.security.toJson),
    ("clusters", .array (settings.clusters.map ClusterSettings.toJson))]

def ofJson (json : Json) : Option Settings := Json.settingsReader.settings json

end Settings

end BrokerTenancy
