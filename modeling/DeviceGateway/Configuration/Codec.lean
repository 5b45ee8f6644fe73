import DeviceGateway.Configuration.Basic
import DeviceGateway.Json.Basic

/-! Configurations as JSON values. -/

namespace DeviceGateway

def ServiceOptions.encode (o : ServiceOptions) : Json := .object [
  ("name", .string o.name), ("timeout_ms", .integer o.timeout),
  ("labels", .array (o.labels.map .string))]

def CommandOptions.encode (o : CommandOptions) : Json := .object [
  ("max_cmd_ops", .integer o.maxOperations), ("data_transform", .bool o.dataTransform),
  ("async_buffer_size", .integer o.bufferSize),
  ("async_drain_timeout_ms", .integer o.drainTimeout)]

def BrokerAddress.encode (a : BrokerAddress) : Json := .object [
  ("host", .string a.host), ("port", .integer a.port.toNat), ("topic_prefix", .string a.topic)]

def Configuration.encode (c : Configuration) : Json := .object [
  ("service", c.service.encode), ("device", c.device.encode),
  ("metadata", .object [("path", .string c.metadata)]),
  ("mqtt", c.broker.elim .null BrokerAddress.encode),
  ("simulator", .object [("async_interval_ms", .integer c.pushInterval)])]

end DeviceGateway
