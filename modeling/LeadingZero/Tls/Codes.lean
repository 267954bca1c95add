import LeadingZero.Enumeration

/-!
# Codes of the protocol

The numbers that records and messages carry, with the names under which they are shown.
-/

namespace LeadingZero
namespace Tls

/-- What a record carries. -/
def contentTypes : Enumeration := .ofCodes [
    (20, "change_cipher_spec"), (21, "alert"), (22, "handshake"), (23, "application_data"),
    (24, "heartbeat")]

/-- How serious an alert is. -/
def alertLevels : Enumeration := .ofCodes [
    (1, "warning"), (2, "fatal")]

/-- What an alert says. -/
def alertDescriptions : Enumeration := .ofCodes [
    (0, "close_notify"), (10, "unexpected_message"), (20, "bad_record_mac"),
    (21, "decryption_failed"), (22, "record_overflow"), (30, "decompression_failure"),
    (40, "handshake_failure"), (41, "no_certificate"), (42, "bad_certificate"),
    (43, "unsupported_certificate"), (44, "certificate_revoked"), (45, "certificate_expired"),
    (46, "certificate_unknown"), (47, "illegal_parameter"), (48, "unknown_ca"),
    (49, "access_denied"), (50, "decode_error"), (51, "decrypt_error"), (60, "export_restriction"),
    (70, "protocol_version"), (71, "insufficient_security"), (80, "internal_error"),
    (86, "inappropriate_fallback"), (90, "user_canceled"), (100, "no_renegotiation"),
    (109, "missing_extension"), (110, "unsupported_extension"), (111, "certificate_unobtainable"),
    (112, "unrecognized_name"), (113, "bad_certificate_status_response"),
    (114, "bad_certificate_hash_value"), (115, "unknown_psk_identity"),
    (116, "certificate_required"), (120, "no_application_protocol")]

/-- What a handshake message is. -/
def handshakeTypes : Enumeration := .ofCodes [
    (0, "hello_request"), (1, "client_hello"), (2, "server_hello"), (4, "new_session_ticket"),
    (5, "end_of_early_data"), (6, "hello_retry_request"), (8, "encrypted_extensions"),
    (11, "certificate"), (12, "server_key_exchange"), (13, "certificate_request"),
    (14, "server_hello_done"), (15, "certificate_verify"), (16, "client_key_exchange"),
    (20, "finished"), (22, "certificate_status"), (24, "key_update"),
    (25, "compressed_certificate"), (67, "next_protocol"), (254, "message_hash")]

end Tls
end LeadingZero
